import VisionsAcademy.AccountSession

/-! What the ManualPayment documents say of their accounts. Each call of a request goes to the
document of the `u_id` it finds, with the email that the page was opened with; a call that finds
none leaves a document under no account. -/
namespace VisionsAcademy.RequestAccounts
open DocumentStore DartDynamic ManualPayment SubscriptionPage
open CourseGates CourseAccess AccountSession
open CourseExpiry (check_effect expire_unchanged)

def Writes (u_id : Option String) (document : Snapshot) (request : Request) (answered : Bool) :
    Stage → Prop
  | .addnewUser => answered = true ∧ validatePathSegment request.selectedCourse.toList = true
  | .update already => answered = true ∧ u_id ≠ none ∧ already ≠ "false" ∧ document ≠ none ∧
      fieldPath request.selectedCourse ≠ none
  | _ => False

theorem writes_going (u_id : Option String) (document : Snapshot) (request : Request)
    (answered : Bool) (stage : Stage) (writes : Writes u_id document request answered stage) :
    Done stage = false := by
  cases stage with
  | addnewUser | update => rfl
  | _ => contradiction

theorem advance_stamp (u_id : Option String) (request : Request) (time : String) (answered : Bool)
    (document : Snapshot) (stage : Stage) (writes : Writes u_id document request answered stage)
    (write : Path × Value) (member : write ∈ stamp u_id request time) :
    (advance u_id request time answered document stage).1.bind (valueAt write.1) =
      some write.2 := by
  cases stage with
  | addnewUser =>
    obtain ⟨rfl,valid⟩ := writes
    have merged := addnewUser_merge u_id request time document valid
    simp only [advance,if_true,merged,Option.bind_some]
    exact merge_leaf u_id request time document write (List.mem_append_right _ member)
  | update already =>
    obtain ⟨rfl,named,asked,present,parsed⟩ := writes
    obtain ⟨fields,rfl⟩ := Option.ne_none_iff_exists'.mp present
    obtain ⟨path,parsed⟩ := Option.ne_none_iff_exists'.mp parsed
    have written := update_document u_id request time fields path parsed
    simp only [advance,named,asked,ne_eq,not_false_eq_true,if_true,if_false,written,Option.bind_some]
    apply valueAt_assignMany _ _ _ write (List.mem_cons_of_mem _ member)
    · intro empty
      simp only [stamp,List.mem_cons,List.not_mem_nil,or_false] at member
      rcases member with rfl | rfl | rfl <;> contradiction
    · simp [stamp,Apart,List.cons_prefix_cons]
  | _ => contradiction

theorem advance_silent (u_id : Option String) (request : Request) (time : String) (answered : Bool)
    (document : Snapshot) (stage : Stage) (silent : ¬Writes u_id document request answered stage) :
    (advance u_id request time answered document stage).1 = document := by
  rcases advance_effect u_id request time answered document stage with
    same | ⟨rfl,answer,valid,_⟩ | ⟨already,fields,path,rfl,answer,named,asked,rfl,parsed,_⟩
  · exact same
  · exact absurd ⟨answer,valid⟩ silent
  · exact absurd ⟨answer,named,asked,by simp,by simp [parsed]⟩ silent

theorem withdraw_field (read : Snapshot) (course : String) (now : Int) (accepted : Bool)
    (document : Snapshot) (name : String) (other : "Course" ≠ name) :
    (withdraw read course now accepted document).bind (valueAt [name]) =
      document.bind (valueAt [name]) := by
  cases accepted with
  | false => rfl
  | true =>
    rcases check_effect (.ok read) course now document with same | wrote
    · rw [withdraw,if_pos rfl,same]
    · rw [withdraw,if_pos rfl,wrote]
      exact expire_unchanged course document [name] (apart_heads _ _ _ _ other)

def Sends (state : State) (u_id : Option String) (request : Request) (stage : Stage)
    (time : String) (answered : Bool) : Label → Prop
  | .advance press moment reply =>
    state.presses[press]? = some ⟨request,stage,u_id⟩ ∧ moment = time ∧ reply = answered
  | .advanceElsewhere called asked turn moment reply =>
    called = u_id ∧ asked = request ∧ turn = stage ∧ moment = time ∧ reply = answered
  | _ => False

def Stamps (state : State) (u_id : Option String) (name : String) (value : Value)
    (label : Label) : Prop :=
  ∃ request stage time answered, Sends state u_id request stage time answered label ∧
    Writes u_id (state.manualPayment.get u_id) request answered stage ∧
    ∀ write ∈ stamp u_id request time, write.1 = [name] → write.2 = value

theorem field_step (email : String → Option String) (u_id : Option String) (name : String)
    (value : Value) (other : "Course" ≠ name) (state : State) (label : Label) (next : State)
    (taken : step email state label = some next) (tells : next.manualPayment.Tells u_id name value) :
    state.manualPayment.Tells u_id name value ∨ Stamps state u_id name value label := by
  have within (called : Option String) (document : Snapshot)
      (kept : document.bind (valueAt [name]) = (state.manualPayment.get called).bind (valueAt [name]))
      (after : (state.manualPayment.put called document).Tells u_id name value) :
      state.manualPayment.Tells u_id name value := by
    rcases Documents.tells_put _ _ _ _ _ _ after with before | ⟨rfl,wrote⟩
    · exact before
    · exact Documents.tells_get _ _ _ _ (kept.symm.trans wrote)
  have turn (called : Option String) (request : Request) (stage : Stage) (time : String)
      (answered : Bool) (sends : Sends state called request stage time answered label)
      (after : (state.manualPayment.put called (advance called request time answered
        (state.manualPayment.get called) stage).1).Tells u_id name value) :
      state.manualPayment.Tells u_id name value ∨ Stamps state u_id name value label := by
    by_cases writes : Writes called (state.manualPayment.get called) request answered stage
    · rcases Documents.tells_put _ _ _ _ _ _ after with before | ⟨rfl,wrote⟩
      · exact Or.inl before
      · refine Or.inr ⟨request,stage,time,answered,sends,writes,?_⟩
        intro write member here
        have stamped := advance_stamp u_id request time answered _ stage writes write member
        rw [here,wrote] at stamped
        exact (Option.some.inj stamped).symm
    · exact Or.inl (within called _ (by rw [advance_silent _ _ _ _ _ _ writes]) after)
  cases step_effect email state label next taken with
  | advance press time answered request stage called found going =>
    exact turn called request stage time answered ⟨found,rfl,rfl⟩ tells
  | advanceElsewhere called request stage time answered =>
    exact turn called request stage time answered ⟨rfl,rfl,rfl,rfl,rfl⟩ tells
  | checked | checkedElsewhere => exact Or.inl (within _ _ (withdraw_field _ _ _ _ _ _ other) tells)
  | approve account course dates =>
    exact Or.inl (within (some account) (some _) (CourseLifecycle.approval_frame _ _ _ [name]
      fun field => apart_heads _ _ _ _ other) tells)
  | _ => exact Or.inl tells

/-- A document that names an account names its own, one under no account none. -/
def Filed (state : State) : Prop :=
  ∀ u_id value, state.manualPayment.Tells u_id "uid" value → value = ofString u_id

def Mailed (email : String → Option String) (state : State) : Prop :=
  ∀ u_id value, state.manualPayment.Tells u_id "Email" value → value = ofString (u_id.bind email)

/-- A turn that writes finds the account that its request is from. -/
def Addressed (email : String → Option String) (state : State) (label : Label) : Prop :=
  ∀ u_id request stage time answered, Sends state u_id request stage time answered label →
    Writes u_id (state.manualPayment.get u_id) request answered stage →
    request.email = u_id.bind email

theorem filed_step (email : String → Option String) (state : State) (label : Label) (next : State)
    (filed : Filed state) (taken : step email state label = some next) : Filed next := by
  intro u_id value tells
  rcases field_step email u_id "uid" value (by decide) state label next taken tells with
    before | ⟨request,_,time,_,_,_,stamped⟩
  · exact filed u_id value before
  · exact (stamped (["uid"],ofString u_id) (by simp [stamp]) rfl).symm

theorem sends_email (email : String → Option String) (state : State) (label : Label) (next : State)
    (taken : step email state label = some next) (u_id : Option String) (request : Request)
    (stage : Stage) (time : String) (answered : Bool)
    (sends : Sends state u_id request stage time answered label)
    (writes : Writes u_id (state.manualPayment.get u_id) request answered stage) :
    next.manualPayment.Tells u_id "Email" (ofString request.email) := by
  have stamped := advance_stamp u_id request time answered _ stage writes
    (["Email"],ofString request.email) (by simp [stamp])
  cases step_effect email state label next taken with
  | advance press moment reply asked turn called found going =>
    obtain ⟨present,rfl,rfl⟩ := sends
    cases found.symm.trans present
    exact Documents.put_tells _ _ _ _ _ stamped
  | advanceElsewhere called asked turn moment reply =>
    obtain ⟨rfl,rfl,rfl,rfl,rfl⟩ := sends
    exact Documents.put_tells _ _ _ _ _ stamped
  | _ => contradiction

theorem mailed_step (email : String → Option String) (state : State) (label : Label) (next : State)
    (mailed : Mailed email state) (taken : step email state label = some next) :
    Mailed email next ↔ Addressed email state label := by
  constructor
  · intro after u_id request stage time answered sends writes
    have tells := sends_email email state label next taken u_id request stage time answered sends writes
    exact Login.ofString_injective _ _ (after u_id _ tells)
  · intro addressed u_id value tells
    rcases field_step email u_id "Email" value (by decide) state label next taken tells with
      before | ⟨request,stage,time,answered,sends,writes,stamped⟩
    · exact mailed u_id value before
    · rw [← addressed u_id request stage time answered sends writes]
      exact (stamped (["Email"],ofString request.email) (by simp [stamp]) rfl).symm

theorem requests_filed (email : String → Option String) (start final : State) (labels : List Label)
    (filed : Filed start) (reached : Runs.run (step email) start labels = some final) :
    Filed final :=
  Runs.unconditional Filed (filed_step email) start final labels filed reached

/-- The first read of the first account's request is still out when the second has signed in. -/
def crossing : State :=
  ⟨.app,some "u2",false,some "u2",[],[⟨⟨"statics",some "u1"⟩,.checkFirstTime,some "u1"⟩],[],
    ⟨fun _ => none,[]⟩⟩

theorem tells_empty (u_id : Option String) (name : String) (value : Value) :
    ¬(Documents.mk (fun _ => none) []).Tells u_id name value := by
  rintro ⟨fields,held,_⟩
  cases u_id with
  | none => contradiction
  | some uid => contradiction

/-- The second account signs out before the call goes out: the request is stored under no account. -/
theorem requests_filed_example : ∃ final, Runs.run (step some) crossing
      [.signOut,.advance 0 "t1" true,.advance 0 "t2" true] = some final ∧ Filed final ∧
    final.manualPayment.Tells none "uid" .null ∧
    final.manualPayment.Tells none "Email" (.string "u1") :=
  ⟨_,rfl,requests_filed some crossing _ [.signOut,.advance 0 "t1" true,.advance 0 "t2" true]
    (fun u_id value tells => absurd tells (tells_empty u_id "uid" value)) rfl,
    ⟨_,List.mem_singleton.mpr rfl,rfl⟩,⟨_,List.mem_singleton.mpr rfl,rfl⟩⟩

theorem mailed_iff (email : String → Option String) (start : State) (labels : List Label)
    (mailed : Mailed email start) :
    Runs.Throughout (step email) (Mailed email) start labels ↔
      Runs.Along (step email) (Addressed email) start labels :=
  Runs.throughout_exact (Mailed email) (Addressed email) (mailed_step email) start labels mailed

theorem mailed_iff_example : ¬Runs.Throughout (step some) (Mailed some) crossing
    [.advance 0 "t1" true,.advance 0 "t2" true] := by
  rw [mailed_iff some crossing _ fun u_id value tells => absurd tells (tells_empty u_id "Email" value)]
  intro along
  have later := (along _ rfl).2
  have same := (later _ rfl).1 (some "u2") ⟨"statics",some "u1"⟩ .addnewUser "t2" true ⟨rfl,rfl,rfl⟩
    ⟨rfl,by decide⟩
  contradiction

/-- Nobody signs out with a request under way, neither here nor, as far as it can be seen from here,
on another device. -/
structure Settled (email : String → Option String) (state : State) (label : Label) : Prop where
  signOut : label = .signOut → ∀ press ∈ state.presses, Done press.stage = true
  elsewhere : ∀ u_id request stage time answered,
    label = .advanceElsewhere u_id request stage time answered → request.email = u_id.bind email

def Pending (email : String → Option String) (state : State) : Prop :=
  ∀ press ∈ state.presses, Done press.stage = false → state.route = .app ∧
    ∃ uid, state.currentUser = some uid ∧ state.u_id = some uid ∧ press.u_id = some uid ∧
      press.request.email = email uid

theorem notNull_ok {α : Type} (receiver : Option α) (value : α) :
    notNull receiver = .ok value ↔ receiver = some value := by
  cases receiver <;> simp [notNull]

theorem buildArguments_email (page : Page) (key : String) (passesPackage : Bool)
    (arguments : SubscriptionArguments)
    (built : buildArguments page key passesPackage = .ok arguments) :
    ∃ user, page.userId = some user ∧ arguments.email = user.email := by
  simp only [buildArguments,bind_ok,notNull_ok] at built
  obtain ⟨user,signed,rest⟩ := built
  refine ⟨user,signed,?_⟩
  cases passesPackage with
  | false =>
    cases rest
    rfl
  | true =>
    simp only [Bool.not_true,Bool.false_eq_true,if_false,bind_ok] at rest
    obtain ⟨_,_,_,_,built⟩ := rest
    cases built
    rfl

theorem tap_subscription (page : Page) (key : String) (manual : Option (Option Bool))
    (passesPackage : Bool) (built : Except Thrown SubscriptionArguments)
    (offers : CourseGates.tap page key manual passesPackage = .subscription built) :
    built = buildArguments page key passesPackage := by
  rw [CourseGates.tap] at offers
  split at offers
  · contradiction
  · contradiction
  · split at offers
    · contradiction
    · cases offers
      rfl

theorem request_email (page : CoursePage) (key : String) (read : Snapshot) (now : Int)
    (request : Request) (requested : page.request key read now = some request) :
    ∃ user, page.userId = some user ∧ request.email = user.email := by
  rw [CoursePage.request] at requested
  split at requested
  next built offers =>
    have passed : ∃ passesPackage, built = buildArguments page.page key passesPackage := by
      rw [CoursePage.tap] at offers
      split at offers
      next gate _ =>
        rw [gate_tap] at offers
        exact ⟨_,tap_subscription _ _ _ _ _ offers⟩
      next => exact ⟨_,tap_subscription _ _ _ _ _ offers⟩
    obtain ⟨passesPackage,same⟩ := passed
    cases built with
    | error thrown => contradiction
    | ok arguments =>
      obtain ⟨user,signed,email⟩ := buildArguments_email page.page key passesPackage arguments
        same.symm
      refine ⟨user,signed,?_⟩
      rw [← email]
      cases package : arguments.package with
      | none => simp [Except.bind,build,package,notNull,bind,Except.toOption] at requested
      | some found =>
        simp only [Except.bind,build,package,notNull,bind,Except.toOption,pure,Except.pure] at requested
        cases requested
        rfl
  next => contradiction

theorem pending_step (email : String → Option String) (state : State) (label : Label) (next : State)
    (own : Own email state) (pending : Pending email state)
    (idle : label = .signOut → ∀ press ∈ state.presses, Done press.stage = true)
    (taken : step email state label = some next) : Pending email next := by
  have inside (away : state.route = .login) (press : Press) (member : press ∈ state.presses) :
      Done press.stage = true := by
    cases going : Done press.stage with
    | true => rfl
    | false =>
      have here := (pending press member going).1
      rw [away] at here
      contradiction
  cases step_effect email state label next taken with
  | logIn uid here | signUp uid here =>
    intro press member going
    rw [inside here press member] at going
    contradiction
  | resume index answer page after left found resumed =>
    intro press member going
    obtain ⟨here,uid,signed,named,own⟩ := pending press member going
    rw [signed] at resumed
    exact ⟨here,uid,signed,resumes_u_id page _ _ answer after left named resumed,own⟩
  | press index key read now page request found mounted requested =>
    intro press member going
    rcases List.mem_append.mp member with earlier | last
    · exact pending press earlier going
    · obtain rfl := List.mem_singleton.mp last
      obtain ⟨here,fits⟩ := own.pages page (List.mem_of_getElem? found) mounted
      obtain ⟨uid,signed⟩ := own.session here
      obtain ⟨user,identified,mail⟩ := request_email page key read now request requested
      obtain ⟨rfl,named⟩ := (fits uid signed).userId user identified
      exact ⟨here,uid,signed,named,named,mail⟩
  | advance press time answered request stage called found going =>
    intro other member later
    rcases List.mem_or_eq_of_mem_set member with earlier | rfl
    · exact pending other earlier later
    · -- The next call is made with the `u_id` of now.
      obtain ⟨here,uid,signed,named,_,mail⟩ := pending _ (List.mem_of_getElem? found) going
      exact ⟨here,uid,signed,named,named,mail⟩
  | signOut here =>
    intro press member going
    rw [idle rfl press member] at going
    contradiction
  | sessionClosed accepted closing =>
    intro press member going
    rw [inside (own.closing closing) press member] at going
    contradiction
  | _ => exact pending

theorem addressed_pending (email : String → Option String) (state : State) (label : Label)
    (pending : Pending email state) (settled : Settled email state label) :
    Addressed email state label := by
  intro u_id request stage time answered sends writes
  cases label with
  | advance press moment reply =>
    have going := writes_going u_id _ request answered stage writes
    obtain ⟨_,account,_,_,same,mail⟩ := pending _ (List.mem_of_getElem? sends.1) going
    cases same
    exact mail
  | advanceElsewhere called asked turn moment reply =>
    obtain ⟨rfl,rfl,_⟩ := sends
    exact settled.elsewhere called asked turn moment reply rfl
  | _ => contradiction

structure Orderly (email : String → Option String) (state : State) : Prop where
  own : Own email state
  pending : Pending email state
  mailed : Mailed email state

theorem orderly_step (email : String → Option String) (state : State) (label : Label) (next : State)
    (orderly : Orderly email state) (settled : Settled email state label)
    (taken : step email state label = some next) : Orderly email next := by
  refine ⟨own_step email state label next orderly.own taken,
    pending_step email state label next orderly.own orderly.pending settled.signOut taken,?_⟩
  apply (mailed_step email state label next orderly.mailed taken).mpr
  exact addressed_pending email state label orderly.pending settled

theorem mailed_of_settled (email : String → Option String) (start : State) (labels : List Label)
    (orderly : Orderly email start) (settled : Runs.Along (step email) (Settled email) start labels) :
    Runs.Throughout (step email) (Mailed email) start labels := by
  have kept := Runs.throughout_invariant (Orderly email) (Settled email) (orderly_step email) start labels
    orderly settled
  intro front back final split reached
  exact (kept front back final split reached).mailed

def asking : State :=
  ⟨.app,some "u1",false,some "u1",[⟨none,true,.returned,some ⟨"u1",some "u1"⟩,none,none⟩],
    [⟨⟨"statics",some "u1"⟩,.addnewUser,some "u1"⟩],[],⟨fun _ => none,[]⟩⟩

theorem asking_orderly : Orderly some asking := by
  refine ⟨⟨fun _ => ⟨"u1",rfl⟩,nofun,?_⟩,?_,fun u_id value tells => absurd tells (tells_empty u_id _ value)⟩
  · intro page member _
    obtain rfl := List.mem_singleton.mp member
    refine ⟨rfl,fun uid signed => ?_⟩
    cases signed
    exact ⟨nofun,fun user same => ⟨(Option.some.inj same).symm,rfl⟩,nofun,nofun⟩
  · intro press member _
    obtain rfl := List.mem_singleton.mp member
    exact ⟨rfl,"u1",rfl,rfl,rfl,rfl⟩

theorem mailed_of_settled_example : Runs.Throughout (step some) (Mailed some) asking
    [.advance 0 "t1" true,.signOut] := by
  apply mailed_of_settled some asking _ asking_orderly
  intro written taken
  cases taken
  refine ⟨⟨nofun,nofun⟩,?_⟩
  intro out taken
  cases taken
  refine ⟨⟨fun _ press member => ?_,nofun⟩,trivial⟩
  obtain rfl := List.mem_singleton.mp member
  rfl

end VisionsAcademy.RequestAccounts
