import VisionsAcademy.Library.StoredValues

/-! Dynamically typed access to document values as Dart performs it: `[]`, casts,
`toString` and method calls on a receiver whose type shows only at run time. A
failed access throws; what a caller's `catch` clause can tell apart is kept in
`Thrown`. -/
namespace DartDynamic
open DocumentStore

inductive Thrown
  | platformException (message : Option String)
  | firebaseException
  | noSuchMethodError
  | stateError
  | typeError
  | assertionError
  deriving DecidableEq

def data : Snapshot → Value
  | none => .null
  | some fields => .map fields

/-- `receiver[key]` with a string key. A string or a list has an operator `[]`
that takes an integer; the other receivers have none. -/
def index (receiver : Value) (key : String) : Except Thrown Value :=
  match receiver with
  | .map entries => .ok ((entries.lookup key).getD .null)
  | .string _ | .array _ => .error .typeError
  | _ => .error .noSuchMethodError

/-- The implicit cast of an assignment `bool x = value`; null is a `bool`. -/
def asBool : Value → Except Thrown (Option Bool)
  | .null => .ok none
  | .boolean truth => .ok (some truth)
  | _ => .error .typeError

def asString : Value → Except Thrown (Option String)
  | .null => .ok none
  | .string text => .ok (some text)
  | _ => .error .typeError

def asTimestamp : Value → Except Thrown (Option (Int × Nat))
  | .null => .ok none
  | .timestamp seconds nanoseconds => .ok (some (seconds,nanoseconds))
  | _ => .error .typeError

def ofString : Option String → Value
  | none => .null
  | some text => .string text

@[simp] theorem asString_ofString (text : Option String) : asString (ofString text) = .ok text := by
  cases text <;> rfl

@[simp] theorem validate_ofString (text : Option String) : validate (ofString text) = true := by
  cases text <;> rfl

@[simp] theorem toStore_ofString (text : Option String) : toStore (ofString text) = ofString text := by
  cases text <;> rfl

theorem asString_ok (value : Value) (text : Option String) :
    asString value = .ok text ↔ value = ofString text := by
  constructor
  · intro read
    cases value with
    | null | string =>
      cases Except.ok.inj read
      rfl
    | _ => contradiction
  · rintro rfl
    exact asString_ofString text

def condition : Option Bool → Except Thrown Bool
  | none => .error .assertionError
  | some truth => .ok truth

/-- `receiver.isAfter(now)`: only a `DateTime` has this method, a `Timestamp` has not. -/
def isAfter (receiver : Value) (now : Int) : Except Thrown Bool :=
  match receiver with
  | .dateTime microseconds => .ok (decide (now < microseconds))
  | _ => .error .noSuchMethodError

def pad (width : Nat) (number : Nat) : String :=
  String.ofList (List.replicate (width - (toString number).length) '0') ++ toString number

/-- Year, month and day of a number of days since 1970-01-01, proleptic Gregorian. -/
def civil (days : Int) : Int × Nat × Nat :=
  let shifted := days + 719468
  let era := shifted / 146097
  let ofEra := (shifted % 146097).toNat
  let yearOfEra := (ofEra - ofEra / 1460 + ofEra / 36524 - ofEra / 146096) / 365
  let ofYear := ofEra - (365 * yearOfEra + yearOfEra / 4 - yearOfEra / 100)
  let fromMarch := (5 * ofYear + 2) / 153
  let month := if fromMarch < 10 then fromMarch + 3 else fromMarch - 9
  let day := ofYear - (153 * fromMarch + 2) / 5 + 1
  (era * 400 + yearOfEra + if month ≤ 2 then 1 else 0,month,day)

def showDateTime (microseconds : Int) : String :=
  let (year,month,day) := civil (microseconds / 86400000000)
  let ofDay := (microseconds % 86400000000).toNat
  let micros := ofDay % 1000
  let sign := if year < 0 then "-" else ""
  sign ++ pad 4 year.natAbs ++ "-" ++ pad 2 month ++ "-" ++ pad 2 day ++ " " ++
    pad 2 (ofDay / 3600000000) ++ ":" ++ pad 2 (ofDay / 60000000 % 60) ++ ":" ++
    pad 2 (ofDay / 1000000 % 60) ++ "." ++ pad 3 (ofDay / 1000 % 1000) ++
    (if micros = 0 then "" else pad 3 micros) ++ "Z"

mutual
def text : Value → String
  | .null => "null"
  | .boolean truth => if truth then "true" else "false"
  | .number value => toString value
  | .double value => value.printed
  | .string text => text
  | .timestamp seconds nanoseconds =>
    "Timestamp(seconds=" ++ toString seconds ++ ", nanoseconds=" ++ toString nanoseconds ++ ")"
  | .dateTime microseconds => showDateTime microseconds
  | .array elements => "[" ++ String.intercalate ", " (texts elements) ++ "]"
  | .map entries => "\x7b" ++ String.intercalate ", " (entryTexts entries) ++ "\x7d"
def texts : List Value → List String
  | [] => []
  | value::rest => text value::texts rest
def entryTexts : Fields → List String
  | [] => []
  | (key,value)::rest => (key ++ ": " ++ text value)::entryTexts rest
end

@[simp] theorem text_null : text .null = "null" := rfl

@[simp] theorem text_boolean (truth : Bool) :
    text (.boolean truth) = if truth then "true" else "false" := rfl

theorem entryTexts_map (entries : Fields) :
    entryTexts entries = entries.map fun entry => entry.1 ++ ": " ++ text entry.2 := by
  induction entries with
  | nil => rfl
  | cons entry rest ih =>
    rcases entry with ⟨key,value⟩
    exact congrArg ((key ++ ": " ++ text value)::·) ih

theorem text_map (entries : Fields) : text (.map entries) =
    "\x7b" ++ String.intercalate ", " (entries.map fun entry => entry.1 ++ ": " ++ text entry.2) ++
      "\x7d" := by
  rw [← entryTexts_map]
  rfl

theorem bind_ok {First Second : Type} (first : Except Thrown First)
    (next : First → Except Thrown Second) (result : Second) :
    (first >>= next) = .ok result ↔ ∃ value, first = .ok value ∧ next value = .ok result := by
  cases first <;> simp [bind,Except.bind]

theorem mapM_ok {First Second : Type} (decode : First → Except Thrown Second)
    (items : List First) (results : List Second) :
    items.mapM decode = .ok results ↔
      List.Forall₂ (fun item result => decode item = .ok result) items results := by
  induction items generalizing results with
  | nil => cases results <;> simp [pure,Except.pure]
  | cons item rest ih =>
    rw [List.mapM_cons,bind_ok]
    cases results with
    | nil => simp [bind_ok,pure,Except.pure]
    | cons head tail => simp [bind_ok,pure,Except.pure,← ih]

theorem mapM_mem {First Second : Type} (decode : First → Except Thrown Second)
    (items : List First) (results : List Second) (succeeded : items.mapM decode = .ok results)
    (item : First) (member : item ∈ items) : ∃ result, decode item = .ok result := by
  rw [mapM_ok] at succeeded
  induction succeeded with
  | nil => contradiction
  | cons here _ ih =>
    rcases List.mem_cons.mp member with rfl | later
    · exact ⟨_,here⟩
    · exact ih later

def indexPath (path : Path) (value : Value) : Except Thrown Value := path.foldlM index value

theorem indexPath_snoc (path : Path) (key : String) (value : Value) :
    indexPath (path ++ [key]) value = (indexPath path value).bind fun found => index found key := by
  simp only [indexPath,List.foldlM_append,List.foldlM_cons,List.foldlM_nil,bind_pure]
  rfl

theorem index_cases (receiver : Value) : (∃ entries, receiver = .map entries) ∨
    ((∀ entries, receiver ≠ .map entries) ∧ ∃ thrown, ∀ key, index receiver key = .error thrown) := by
  cases receiver with
  | map entries => exact Or.inl ⟨entries,rfl⟩
  | string | array => exact Or.inr ⟨by simp,.typeError,fun _ => rfl⟩
  | _ => exact Or.inr ⟨by simp,.noSuchMethodError,fun _ => rfl⟩

/-- A chain of lookups finds what the path finds; past the end of the path it answers
null or throws. -/
theorem indexPath_cases (path : Path) (value : Value) :
    (∃ found, value.get path = some found ∧ indexPath path value = .ok found) ∨
    (value.get path = none ∧
      (indexPath path value = .ok .null ∨ ∃ thrown, indexPath path value = .error thrown)) := by
  induction path generalizing value with
  | nil => exact Or.inl ⟨value,rfl,rfl⟩
  | cons key rest ih =>
    cases value with
    | map entries =>
      cases inner : entries.lookup key with
      | some next =>
        have here : indexPath (key::rest) (.map entries) = indexPath rest next := by
          simp [indexPath,index,inner,bind,Except.bind]
        simpa only [here,Value.get,Value.fields_map,inner,Option.bind_some] using ih next
      | none =>
        refine Or.inr ⟨by simp [Value.get,inner],?_⟩
        cases rest with
        | nil => exact Or.inl (by simp [indexPath,index,inner,bind,Except.bind,pure,Except.pure])
        | cons second later =>
          exact Or.inr ⟨.noSuchMethodError,by simp [indexPath,index,inner,bind,Except.bind]⟩
    | string | array => exact Or.inr ⟨rfl,Or.inr ⟨.typeError,rfl⟩⟩
    | _ => exact Or.inr ⟨rfl,Or.inr ⟨.noSuchMethodError,rfl⟩⟩

end DartDynamic
