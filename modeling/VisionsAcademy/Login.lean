import VisionsAcademy.Library.Runs
import VisionsAcademy.DatabaseService

/-! Devices logging in to one account through lib/register_login/login.dart. The
handler of the Log In button issues the deviceID write and opens the home screen
in one turn; the answer to the write comes later, or never as a success, and
nobody looks at it. -/
namespace VisionsAcademy.Login
open DocumentStore DartDynamic DatabaseService

inductive Phase
  | form
  | signingIn
  | signedIn
  | home
  deriving DecidableEq

inductive Write
  | inFlight
  | taken
  | lost
  deriving DecidableEq

structure Entry (Device : Type) where
  device : Device
  write : Write

structure State (Device : Type) where
  users : Collection
  phase : Device → Phase
  entries : List (Entry Device)

inductive Label (Device : Type)
  | onPressed (device : Device)
  | signIn (device : Device) (accepted : Bool)
  | getId (device : Device) (answered : Bool)
  | answer (entry : Nat) (accepted : Bool)
  | signOut (device : Device)

variable {Device : Type}

def State.move [DecidableEq Device] (state : State Device) (device : Device) (phase : Phase) : State Device :=
  {state with phase := Function.update state.phase device phase}

def step [DecidableEq Device] (id : Device → Option String) (uid : String) (state : State Device) :
    Label Device → Option (State Device)
  | .onPressed device =>
    if state.phase device = .form then some (state.move device .signingIn) else none
  | .signIn device accepted =>
    if state.phase device = .signingIn then
      some (state.move device (if accepted then .signedIn else .form)) else none
  | .getId device answered =>
    if state.phase device = .signedIn then
      if answered then
        -- `loginUser` starts and `pushReplacementNamed` follows without an await between them.
        some {state.move device .home with entries := state.entries ++ [⟨device,.inFlight⟩]}
      else some (state.move device .form)
    else none
  | .answer entry accepted =>
    match state.entries[entry]? with
    | some ⟨device,.inFlight⟩ =>
      let result := loginUser (some uid) (id device) accepted state.users
      some {state with
        users := result.1
        entries := state.entries.set entry ⟨device,if result.2.isSome then .taken else .lost⟩}
    | _ => none
  | .signOut device =>
    if state.phase device = .home then some (state.move device .form) else none

def initial (users : Collection) : State Device := ⟨users,fun _ => .form,[]⟩

def State.latest (state : State Device) : Option (Entry Device) := state.entries.getLast?

def State.quiet (state : State Device) : Prop := ∀ entry ∈ state.entries, entry.write ≠ .inFlight

instance (state : State Device) : Decidable state.quiet :=
  inferInstanceAs (Decidable (∀ entry ∈ state.entries, entry.write ≠ .inFlight))

/-- The one-device rule: with no write in flight the account is bound to the device
that entered last. -/
def Bound (id : Device → Option String) (uid : String) (state : State Device) : Prop :=
  state.quiet → ∀ latest, state.latest = some latest →
    storedId state.users uid = some (ofString (id latest.device))

/-- The answer to the write of the last entry leaves the account bound to its device,
and no write of an earlier entry by another device is taken after that answer. -/
def Timely (id : Device → Option String) (uid : String) (state : State Device) : Label Device → Prop
  | .answer entry accepted => ∀ device write latest,
      state.entries[entry]? = some ⟨device,write⟩ → state.latest = some latest →
      if entry + 1 = state.entries.length then
        (accepted = true ∧ state.users uid ≠ none) ∨
          storedId state.users uid = some (ofString (id device))
      else accepted = true → state.users uid ≠ none →
        latest.write = .inFlight ∨ id device = id latest.device
  | _ => True

def Settled (id : Device → Option String) (uid : String) (state : State Device) : Prop :=
  ∀ latest, state.latest = some latest →
    latest.write = .inFlight ∨ storedId state.users uid = some (ofString (id latest.device))

theorem loginUser_stores (uid : String) (devId : Option String) (users : Collection)
    (present : users uid ≠ none) :
    storedId (loginUser (some uid) devId true users).1 uid = some (ofString devId) := by
  obtain ⟨fields,found⟩ := Option.ne_none_iff_exists'.mp present
  simp [storedId,loginUser,found,update_deviceID]

theorem loginUser_unchanged (uid : String) (devId : Option String) (accepted : Bool)
    (users : Collection) (refused : ¬ (accepted = true ∧ users uid ≠ none)) :
    (loginUser (some uid) devId accepted users).1 = users := by
  cases accepted with
  | false => rfl
  | true =>
    have absent : users uid = none := by simpa using refused
    simp [loginUser,absent,update]

theorem latest_set (state : State Device) (entry : Nat) (new : Entry Device)
    (earlier : entry + 1 ≠ state.entries.length) :
    (state.entries.set entry new).getLast? = state.latest := by
  by_cases inside : entry < state.entries.length
  · rw [State.latest,List.getLast?_eq_getElem?,List.getLast?_eq_getElem?,List.length_set,
      List.getElem?_set_ne (by omega)]
  · rw [State.latest,List.set_eq_of_length_le (by omega)]

theorem latest_set_last (state : State Device) (entry : Nat) (new : Entry Device)
    (last : entry + 1 = state.entries.length) :
    (state.entries.set entry new).getLast? = some new := by
  rw [List.getLast?_eq_getElem?,List.length_set,← last,Nat.add_sub_cancel,
    List.getElem?_set_self (by omega)]

theorem ofString_injective (first second : Option String) (same : ofString first = ofString second) :
    first = second := by
  cases first <;> cases second <;> simp_all [ofString]

theorem settled_last (id : Device → Option String) (uid : String) (state : State Device)
    (entry : Nat) (accepted : Bool) (device : Device) (write mark : Write)
    (found : state.entries[entry]? = some ⟨device,write⟩) (answered : mark ≠ .inFlight)
    (last : entry + 1 = state.entries.length) :
    Settled id uid {state with
      users := (loginUser (some uid) (id device) accepted state.users).1
      entries := state.entries.set entry ⟨device,mark⟩} ↔
    Timely id uid state (.answer entry accepted) := by
  have now := latest_set_last state entry ⟨device,mark⟩ last
  have before : state.latest = some ⟨device,write⟩ := by
    rw [State.latest,List.getLast?_eq_getElem?,← last,Nat.add_sub_cancel,found]
  by_cases taken : accepted = true ∧ state.users uid ≠ none
  · apply iff_of_true
    · intro latest present
      cases Option.some.inj (now.symm.trans present)
      obtain ⟨rfl,stored⟩ := taken
      exact Or.inr (loginUser_stores uid (id device) state.users stored)
    · intro other mark latest _ _
      rw [if_pos last]
      exact Or.inl taken
  · rw [loginUser_unchanged uid (id device) accepted state.users taken]
    constructor
    · intro after other mark latest same _
      cases Option.some.inj (found.symm.trans same)
      rw [if_pos last]
      exact Or.inr ((after _ now).resolve_left answered)
    · intro timely latest present
      cases Option.some.inj (now.symm.trans present)
      have bound := timely device write ⟨device,write⟩ found before
      rw [if_pos last] at bound
      exact Or.inr (bound.resolve_left taken)

theorem settled_earlier (id : Device → Option String) (uid : String) (state : State Device)
    (entry : Nat) (accepted : Bool) (device : Device) (write mark : Write)
    (found : state.entries[entry]? = some ⟨device,write⟩)
    (earlier : entry + 1 ≠ state.entries.length) (settled : Settled id uid state) :
    Settled id uid {state with
      users := (loginUser (some uid) (id device) accepted state.users).1
      entries := state.entries.set entry ⟨device,mark⟩} ↔
    Timely id uid state (.answer entry accepted) := by
  have now := latest_set state entry ⟨device,mark⟩ earlier
  by_cases taken : accepted = true ∧ state.users uid ≠ none
  · obtain ⟨rfl,present⟩ := taken
    have stored := loginUser_stores uid (id device) state.users present
    constructor
    · intro after other mark latest same final
      cases Option.some.inj (found.symm.trans same)
      rw [if_neg earlier]
      intro _ _
      have bound := after latest (now.trans final)
      rw [stored] at bound
      exact bound.imp_right fun equal => ofString_injective _ _ (Option.some.inj equal)
    · intro timely latest final
      have bound := timely device write latest found (now.symm.trans final)
      rw [if_neg earlier] at bound
      rw [stored]
      exact (bound rfl present).imp_right fun equal => by rw [equal]
  · rw [loginUser_unchanged uid (id device) accepted state.users taken]
    apply iff_of_true
    · intro latest final
      exact settled latest (now.symm.trans final)
    · intro other mark latest _ _
      rw [if_neg earlier]
      intro accepts present
      exact absurd ⟨accepts,present⟩ taken

theorem settled_step [DecidableEq Device] (id : Device → Option String) (uid : String)
    (state : State Device) (label : Label Device) (next : State Device)
    (settled : Settled id uid state) (taken : step id uid state label = some next) :
    Settled id uid next ↔ Timely id uid state label := by
  cases label with
  | onPressed device | signIn device accepted | signOut device =>
    simp only [step] at taken
    split at taken
    · cases Option.some.inj taken
      exact iff_of_true settled trivial
    · contradiction
  | getId device answered =>
    simp only [step] at taken
    split at taken
    · split at taken
      · cases Option.some.inj taken
        refine iff_of_true ?_ trivial
        intro latest found
        have same : (⟨device,.inFlight⟩ : Entry Device) = latest := by
          simpa [State.latest] using found
        exact Or.inl (same ▸ rfl)
      · cases Option.some.inj taken
        exact iff_of_true settled trivial
    · contradiction
  | answer entry accepted =>
    simp only [step] at taken
    split at taken
    next device found =>
      cases Option.some.inj taken
      by_cases last : entry + 1 = state.entries.length
      · apply settled_last id uid state entry accepted device .inFlight _ found _ last
        split <;> simp
      · exact settled_earlier id uid state entry accepted device .inFlight _ found last settled
    next => contradiction

theorem settled_iff_timely [DecidableEq Device] (id : Device → Option String) (uid : String)
    (users : Collection) (labels : List (Label Device)) :
    Runs.Throughout (step id uid) (Settled id uid) (initial users) labels ↔
      Runs.Along (step id uid) (Timely id uid) (initial users) labels := by
  apply Runs.throughout_exact (Settled id uid) (Timely id uid) (settled_step id uid)
  intro latest found
  simp [initial,State.latest] at found

theorem bound_of_timely [DecidableEq Device] (id : Device → Option String) (uid : String)
    (users : Collection) (labels : List (Label Device))
    (timely : Runs.Along (step id uid) (Timely id uid) (initial users) labels) :
    Runs.Throughout (step id uid) (Bound id uid) (initial users) labels := by
  have settled := (settled_iff_timely id uid users labels).mpr timely
  intro front back final split reached quiet latest found
  have bound := settled front back final split reached latest found
  exact bound.resolve_left (quiet latest (List.mem_of_getLast? found))

def account : Collection := Function.update (fun _ => none) "u1" (some [("deviceID",.string "phone0")])

def phone : Bool → Option String
  | false => some "phone1"
  | true => some "phone2"

/-- The second phone enters while the write of the first is still in flight. -/
def relay : List (Label Bool) :=
  [.onPressed false,.signIn false true,.getId false true,.onPressed true,.signIn true true,
    .getId true true,.answer 0 true,.answer 1 true]

theorem relay_timely : Runs.Along (step phone "u1") (Timely phone "u1") (initial account) relay := by
  iterate 6 apply Runs.along_step _ _ _ _ _ rfl trivial
  apply Runs.along_step _ _ _ _ _ rfl _
  · apply Runs.along_step _ _ _ _ _ rfl _
    · trivial
    · intro device write latest found last
      cases found
      exact Or.inl ⟨rfl,by decide⟩
  · intro device write latest found last
    cases last
    exact fun _ _ => Or.inl rfl

theorem bound_of_timely_example : ∃ final, Runs.run (step phone "u1") (initial account) relay =
    some final ∧ final.quiet ∧ Bound phone "u1" final :=
  ⟨_,rfl,by decide,bound_of_timely phone "u1" account relay relay_timely relay [] _
    (List.append_nil _).symm rfl⟩

theorem overtaken_write :
    ∃ final, Runs.run (step phone "u1") (initial account)
      [.onPressed false,.signIn false true,.getId false true,
        .onPressed true,.signIn true true,.getId true true,.answer 1 true,.answer 0 true] = some final ∧
      ¬ Bound phone "u1" final := by
  refine ⟨_,rfl,fun bound => ?_⟩
  have stored := bound (by decide) ⟨true,.taken⟩ rfl
  change some (Value.string "phone1") = some (.string "phone2") at stored
  simp at stored

end VisionsAcademy.Login
