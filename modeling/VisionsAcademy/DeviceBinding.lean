import VisionsAcademy.Login
import VisionsAcademy.SplashScreen

/-! One device at a time, put together from its two halves: the Login screen of every device writes
the deviceID of the account, the splash screen of every device compares it. -/
namespace VisionsAcademy.DeviceBinding
open DocumentStore DartDynamic DatabaseService Login

variable {Device : Type}

def opens (id : Device → Option String) (uid : String) (users : Collection) (device : Device) :
    SplashScreen.Route :=
  SplashScreen.target (id device) (getDevIdFromDatabase (some uid) (reading users))

/-- From the answer to its write on, the device that entered last passes the splash screen and
every other is sent to the login. -/
def Single (id : Device → Option String) (uid : String) (state : State Device) : Prop :=
  ∀ latest, state.latest = some latest → latest.write = .inFlight ∨
    ∀ device, opens id uid state.users device =
      if id device = id latest.device then .bottomBar else .log

theorem getDevId_stored (users : Collection) (uid : String) :
    getDevIdFromDatabase (some uid) (reading users) =
      match storedId users uid with
      | some (.string devId) => some devId
      | _ => none := by
  cases found : users uid with
  | none => simp [storedId,getDevIdFromDatabase,readDevId,reading,current,found,data,index,bind,
      Except.bind,Except.toOption]
  | some fields =>
    cases present : fields.lookup "deviceID" with
    | none => simp [storedId,getDevIdFromDatabase,readDevId,reading,current,found,data,index,present,
        bind,Except.bind,Except.toOption,asString]
    | some value =>
      cases value <;> simp [storedId,getDevIdFromDatabase,readDevId,reading,current,found,data,index,
        present,bind,Except.bind,Except.toOption,asString]

theorem opens_bottomBar (id : Device → Option String) (uid : String) (users : Collection)
    (device : Device) : opens id uid users device = .bottomBar ↔
      id device = getDevIdFromDatabase (some uid) (reading users) := by
  rw [opens,SplashScreen.target]
  split <;> simp_all

theorem single_settled (id : Device → Option String) (uid : String) (state : State Device)
    (real : ∀ device, id device ≠ none) : Single id uid state ↔ Settled id uid state := by
  apply forall_congr'
  intro latest
  apply imp_congr_right
  intro _
  apply or_congr_right
  obtain ⟨devId,named⟩ := Option.ne_none_iff_exists'.mp (real latest.device)
  have reader := getDevId_stored state.users uid
  rw [named]
  constructor
  · intro exactly
    have passes := exactly latest.device
    rw [named,if_pos rfl,opens_bottomBar,named,reader] at passes
    split at passes
    next found =>
      cases passes
      exact found
    next => contradiction
  · intro stored device
    rw [stored] at reader
    rw [opens,reader]
    rfl

/-- Without an id a device also passes the splash screen of an account that has no document. -/
theorem single_iff_timely [DecidableEq Device] (id : Device → Option String) (uid : String)
    (users : Collection) (labels : List (Label Device)) (real : ∀ device, id device ≠ none) :
    Runs.Throughout (step id uid) (Single id uid) (initial users) labels ↔
      Runs.Along (step id uid) (Timely id uid) (initial users) labels := by
  apply Runs.throughout_exact (Single id uid) (Timely id uid)
  · intro state label next single taken
    rw [single_settled id uid _ real] at single ⊢
    exact settled_step id uid state label next single taken
  · intro latest found
    simp [initial,State.latest] at found

theorem single_iff_timely_example :
    Runs.Throughout (step phone "u1") (Single phone "u1") (initial account) relay :=
  (single_iff_timely phone "u1" account relay fun device => by cases device <;> simp [phone]).mpr
    relay_timely

end VisionsAcademy.DeviceBinding
