import VisionsAcademy.Library.Documents

/-! What a store keeps of the values that are written: it has no DateTime, and a read returns
a Timestamp in its place. -/
namespace DocumentStore

mutual
def toStore : Value → Value
  | .dateTime microseconds =>
    .timestamp (microseconds / 1000000) ((microseconds % 1000000).toNat * 1000)
  | .array elements => .array (toStoreAll elements)
  | .map entries => .map (toStoreFields entries)
  | value => value
def toStoreAll : List Value → List Value
  | [] => []
  | value::rest => toStore value::toStoreAll rest
def toStoreFields : Fields → Fields
  | [] => []
  | (key,value)::rest => (key,toStore value)::toStoreFields rest
end

mutual
theorem toStore_toStore : ∀ value, toStore (toStore value) = toStore value
  | .dateTime _ => rfl
  | .array elements => congrArg Value.array (toStoreAll_toStoreAll elements)
  | .map entries => congrArg Value.map (toStoreFields_toStoreFields entries)
  | .null => rfl
  | .boolean _ => rfl
  | .number _ => rfl
  | .double _ => rfl
  | .string _ => rfl
  | .timestamp _ _ => rfl
theorem toStoreAll_toStoreAll : ∀ elements, toStoreAll (toStoreAll elements) = toStoreAll elements
  | [] => rfl
  | value::rest => congrArg₂ List.cons (toStore_toStore value) (toStoreAll_toStoreAll rest)
theorem toStoreFields_toStoreFields : ∀ entries,
    toStoreFields (toStoreFields entries) = toStoreFields entries
  | [] => rfl
  | (key,value)::rest => congrArg₂ List.cons (congrArg (Prod.mk key) (toStore_toStore value))
    (toStoreFields_toStoreFields rest)
end

theorem toStoreFields_map (entries : Fields) :
    toStoreFields entries = entries.map fun entry => (entry.1,toStore entry.2) := by
  induction entries with
  | nil => rfl
  | cons entry rest ih => exact congrArg ((entry.1,toStore entry.2)::·) ih

theorem fields_toStore (value : Value) : (toStore value).fields = toStoreFields value.fields := by
  cases value <;> rfl

theorem get_toStore (path : Path) (value : Value) :
    (toStore value).get path = (value.get path).map toStore := by
  induction path generalizing value with
  | nil => rfl
  | cons key rest ih =>
    simp only [Value.get,fields_toStore,toStoreFields_map,Entries.lookup_mapValues]
    cases value.fields.lookup key with
    | none => rfl
    | some inner => exact ih inner

/-- A document as a read returns it. -/
def Returned (document : Snapshot) : Prop := document.map toStoreFields = document

theorem returned_undated (document : Snapshot) (returned : Returned document) (path : Path)
    (microseconds : Int) : document.bind (valueAt path) ≠ some (.dateTime microseconds) := by
  cases document with
  | none => simp
  | some fields =>
    intro dated
    have same : toStore (.map fields) = .map fields := congrArg Value.map (Option.some.inj returned)
    have kept := get_toStore path (.map fields)
    rw [same,← valueAt] at kept
    rw [Option.bind_some] at dated
    rw [dated] at kept
    simp [toStore] at kept

end DocumentStore
