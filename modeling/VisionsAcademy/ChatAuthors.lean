import VisionsAcademy.Chat

/-! Who the author of a stored chat message is. The registered ChatController keeps the
user of its construction, while the conversation is chosen by the session of the moment. -/
namespace VisionsAcademy.ChatAuthors
open Chat

variable {Device Document : Type}

def Authored (state : State Device Document) : Prop :=
  ∀ uid, ∀ entry ∈ state.msgs uid, entry.2.message.user.uid = uid

def SameAccount (phone : Phone) : Prop :=
  ∀ account opener, phone.currentUser = some account → phone.opener = some opener →
    account.uid = opener.uid

/-- Messages are sent under the account that first opened the chat on the device. -/
def Steady (state : State Device Document) : Label Device Document → Prop
  | .onSend device _ _ => SameAccount (state.phone device)
  | .downloadURL index _ => ∀ attachment, state.attachments[index]? = some attachment →
      SameAccount (state.phone attachment.device)
  | _ => True

structure Consistent (phone : Phone) : Prop where
  registered : phone.registered = phone.opener.map chatUser
  mounted : ∀ user, phone.chatController = some user → phone.registered = some user

def Follows (before after : Phone) : Prop :=
  Consistent after ∧ ∀ user, before.registered = some user → after.registered = some user

theorem follows_open (phone : Phone) (account : Account) (consistent : Consistent phone) :
    Follows phone ⟨some account,some (put phone.registered account),
      some (put phone.registered account),phone.opener.or (some account)⟩ := by
  have linked := consistent.registered
  cases opener : phone.opener with
  | none =>
    rw [opener] at linked
    refine ⟨⟨?_,fun user mounted => mounted⟩,?_⟩
    · simp [put,linked]
    · simp [linked]
  | some first =>
    rw [opener] at linked
    refine ⟨⟨?_,fun user mounted => mounted⟩,?_⟩
    · simp [put,linked]
    · simp [put,linked]

theorem follows_set [DecidableEq Device] (state : State Device Document) (device other : Device)
    (phone : Phone) (consistent : ∀ device, Consistent (state.phone device))
    (follows : Follows (state.phone device) phone) :
    Follows (state.phone other) ((state.set device phone).phone other) := by
  by_cases same : other = device
  · subst other
    simpa [State.set] using follows
  · have kept : (state.set device phone).phone other = state.phone other := by
      simp [State.set,same]
    rw [kept]
    exact ⟨consistent other,fun _ present => present⟩

theorem phones_step [DecidableEq Device] (state next : State Device Document)
    (label : Label Device Document) (consistent : ∀ device, Consistent (state.phone device))
    (taken : step state label = some next) (device : Device) :
    Follows (state.phone device) (next.phone device) := by
  cases step_effect state next label taken with
  | signIn other account =>
    apply follows_set state other device _ consistent
    exact ⟨⟨(consistent other).registered,(consistent other).mounted⟩,fun _ present => present⟩
  | signOut other | leaveChat other =>
    apply follows_set state other device _ consistent
    exact ⟨⟨(consistent other).registered,by simp⟩,fun _ present => present⟩
  | openChat other account session =>
    apply follows_set state other device _ consistent
    exact follows_open _ account (consistent other)
  | _ => exact ⟨consistent device,fun _ present => present⟩

theorem attachments_step [DecidableEq Device] (state next : State Device Document)
    (label : Label Device Document) (taken : step state label = some next)
    (attachment : Attachment Device Document) (member : attachment ∈ next.attachments) :
    (∃ old ∈ state.attachments, old.device = attachment.device ∧ old.user = attachment.user) ∨
      (state.phone attachment.device).chatController = some attachment.user := by
  cases step_effect state next label taken with
  | attach device document user screen =>
    rcases List.mem_append.mp member with old | new
    · exact Or.inl ⟨attachment,old,rfl,rfl⟩
    · rw [List.mem_singleton.mp new]
      exact Or.inr screen
  | uploaded index started found =>
    rcases List.mem_or_eq_of_mem_set member with old | new
    · exact Or.inl ⟨attachment,old,rfl,rfl⟩
    · subst attachment
      exact Or.inl ⟨started,List.mem_of_getElem? found,rfl,rfl⟩
  | downloadURL index | failed index =>
    exact Or.inl ⟨attachment,List.mem_of_mem_eraseIdx member,rfl,rfl⟩
  | _ => exact Or.inl ⟨attachment,member,rfl,rfl⟩

structure Opened (state : State Device Document) : Prop where
  phones : ∀ device, Consistent (state.phone device)
  attachments : ∀ attachment ∈ state.attachments,
    (state.phone attachment.device).registered = some attachment.user

theorem opened_step [DecidableEq Device] (state next : State Device Document)
    (label : Label Device Document) (opened : Opened state)
    (taken : step state label = some next) : Opened next := by
  have follows := phones_step state next label opened.phones taken
  refine ⟨fun device => (follows device).1,fun attachment member => ?_⟩
  apply (follows attachment.device).2
  rcases attachments_step state next label taken attachment member with
    ⟨old,present,device,user⟩ | mounted
  · rw [← device,← user]
    exact opened.attachments old present
  · exact (opened.phones attachment.device).mounted attachment.user mounted

theorem author_of_registered (phone : Phone) (account : Account) (user : ChatUser)
    (consistent : Consistent phone) (registered : phone.registered = some user)
    (session : phone.currentUser = some account) (steady : SameAccount phone) :
    user.uid = account.uid := by
  have linked := consistent.registered
  rw [registered] at linked
  obtain ⟨opener,opened,same⟩ := Option.map_eq_some_iff.mp linked.symm
  have equal := steady account opener session opened
  rw [equal,← same,chatUser]

theorem issued_author [DecidableEq Device] (state : State Device Document)
    (label : Label Device Document) (write : Write Document) (opened : Opened state)
    (steady : Steady state label) (member : write ∈ issues state label) :
    write.message.user.uid = write.uid := by
  rcases issues_cases state label write member with
    ⟨device,_,_,user,account,rfl,screen,session,rfl⟩ |
    ⟨index,_,attachment,account,rfl,found,session,rfl⟩
  · have registered := (opened.phones device).mounted user screen
    exact author_of_registered _ account user (opened.phones device) registered session steady
  · have registered := opened.attachments attachment (List.mem_of_getElem? found)
    exact author_of_registered _ account attachment.user (opened.phones attachment.device)
      registered session (steady attachment found)

theorem steady_of_issued [DecidableEq Device] (state next : State Device Document)
    (label : Label Device Document) (opened : Opened state) (taken : step state label = some next)
    (authors : ∀ write ∈ issues state label, write.message.user.uid = write.uid) :
    Steady state label := by
  have linked (device : Device) (user : ChatUser) (opener : Account)
      (registered : (state.phone device).registered = some user)
      (first : (state.phone device).opener = some opener) : opener.uid = user.uid := by
    have same := (opened.phones device).registered
    rw [registered,first] at same
    rw [Option.some.inj same,chatUser]
  cases step_effect state next label taken with
  | onSend device text now user screen =>
    intro account opener session first
    have author : user.uid = account.uid := by
      apply authors ⟨account.uid,now,⟨text,user,none⟩,none⟩
      simp [issues,screen,session,runTransaction]
    have registered := (opened.phones device).mounted user screen
    rw [← author,linked device user opener registered first]
  | downloadURL index now attachment found =>
    intro other same account opener session first
    cases Option.some.inj (found.symm.trans same)
    have author : attachment.user.uid = account.uid := by
      apply authors ⟨account.uid,now,attachmentMessage attachment,some attachment.document⟩
      simp [issues,found,session,runTransaction]
    have registered := opened.attachments attachment (List.mem_of_getElem? found)
    rw [← author,linked attachment.device attachment.user opener registered first]
  | _ => trivial

structure Promised (state : State Device Document) : Prop where
  pending : ∀ write ∈ state.pending, write.message.user.uid = write.uid
  authored : Authored state

theorem promised_step [DecidableEq Device] (state : State Device Document)
    (label : Label Device Document) (next : State Device Document) (opened : Opened state)
    (promised : Promised state) (taken : step state label = some next) :
    Promised next ↔ Steady state label := by
  rcases step_cases state next label taken with
    ⟨index,attachment,rfl,_,rfl⟩ | ⟨index,write,rfl,found,rfl⟩ | ⟨_,_,_,msgs,pending,_⟩
  · exact iff_of_true ⟨promised.pending,promised.authored⟩ trivial
  · refine iff_of_true ⟨?_,?_⟩ trivial
    · intro other member
      exact promised.pending other (List.mem_of_mem_eraseIdx member)
    · intro uid entry member
      rcases mem_commit state index write uid entry member with ⟨same,new⟩ | old
      · rw [new,same]
        exact promised.pending write (List.mem_of_getElem? found)
      · exact promised.authored uid entry old
  · constructor
    · intro after
      apply steady_of_issued state next label opened taken
      intro write member
      apply after.pending
      rw [pending]
      exact List.mem_append_right _ member
    · intro steady
      refine ⟨?_,?_⟩
      · intro write member
        rw [pending] at member
        rcases List.mem_append.mp member with old | new
        · exact promised.pending write old
        · exact issued_author state label write opened steady new
      · simpa only [Authored,msgs] using promised.authored

theorem promised_iff_steady [DecidableEq Device] (labels : List (Label Device Document)) :
    Runs.Throughout step Promised (initial : State Device Document) labels ↔
      Runs.Along step Steady initial labels := by
  apply Runs.throughout_iff Opened Promised Steady _ promised_step
  · refine ⟨fun device => ⟨rfl,?_⟩,?_⟩
    · intro user mounted
      contradiction
    · intro attachment member
      simp [initial] at member
  · refine ⟨?_,?_⟩
    · intro write member
      simp [initial] at member
    · intro uid entry member
      simp [initial] at member
  · intro state label next opened taken
    exact opened_step state next label opened taken

theorem run_authored [DecidableEq Device] (labels : List (Label Device Document))
    (steady : Runs.Along step Steady (initial : State Device Document) labels) :
    Runs.Throughout step Authored (initial : State Device Document) labels := by
  have promised := (promised_iff_steady labels).mpr steady
  intro front back final split reached
  exact (promised front back final split reached).authored

theorem run_authored_example : ∃ final : State Bool String,
    Runs.run step initial [.signIn false anna,.openChat false,.signIn true anna,.openChat true,
      .onSend false "hello" 2000,.attach true "notes.pdf",.uploaded 0,.downloadURL 0 1000,
      .commit 1,.commit 0] = some final ∧ (final.msgs "anna").length = 2 ∧ Authored final := by
  refine ⟨_,rfl,by decide,?_⟩
  refine run_authored [.signIn false anna,.openChat false,.signIn true anna,.openChat true,
    .onSend false "hello" 2000,.attach true "notes.pdf",.uploaded 0,.downloadURL 0 1000,
    .commit 1,.commit 0] ?_ _ [] _ (List.append_nil _).symm rfl
  have same (phone : Phone) (session : phone.currentUser = some anna)
      (opener : phone.opener = some anna) : SameAccount phone := by
    intro account first current opened
    rw [session] at current
    rw [opener] at opened
    cases current
    cases opened
    rfl
  apply Runs.along_step _ _ _ _ _ rfl trivial
  apply Runs.along_step _ _ _ _ _ rfl trivial
  apply Runs.along_step _ _ _ _ _ rfl trivial
  apply Runs.along_step _ _ _ _ _ rfl trivial
  apply Runs.along_step _ _ _ _ _ rfl (same _ rfl rfl)
  apply Runs.along_step _ _ _ _ _ rfl trivial
  apply Runs.along_step _ _ _ _ _ rfl trivial
  apply Runs.along_step _ _ _ _ _ rfl ?_
  · apply Runs.along_step _ _ _ _ _ rfl trivial
    exact Runs.along_step _ _ _ _ _ rfl trivial trivial
  · intro attachment found
    cases Option.some.inj found
    exact same _ rfl rfl

theorem switched_account : ¬ Runs.Throughout step Authored (initial : State Unit String)
    [.signIn () anna,.openChat (),.signOut (),.signIn () ben,.openChat (),
      .onSend () "hello" 1000,.commit 0] := by
  intro throughout
  have authored := throughout _ [] _ (List.append_nil _).symm rfl
  have same : "anna" = "ben" := authored "ben" _ List.mem_cons_self
  simp at same

end VisionsAcademy.ChatAuthors
