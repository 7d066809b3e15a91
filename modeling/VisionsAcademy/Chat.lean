import Mathlib.Logic.Function.Basic
import VisionsAcademy.Library.Entries
import VisionsAcademy.Library.Runs

/-! The support chat of lib/ChatScreen.dart and lib/data_for_log_register/chatController.dart
for any number of devices, each being one run of the app. A device has its Firebase
session, the ChatController that GetX registered on it and, while ChatScreen is
mounted, the controller of that screen. Uploads, URL requests and transactions are
answered in any order. -/
namespace VisionsAcademy.Chat

structure ChatUser where
  uid : String
  name : Option String

structure Account where
  uid : String
  displayName : Option String

structure Url where
  path : String

structure ChatMessage where
  text : String
  user : ChatUser
  image : Option Url

/-- A transaction that sets a document of messagesUser/{uid}/msgs. `attached` is the
document uploaded for the message, which only the history knows. -/
structure Write (Document : Type) where
  uid : String
  millisecondsSinceEpoch : Int
  message : ChatMessage
  attached : Option Document

variable {Device Document : Type}

def Write.id (write : Write Document) : String := toString write.millisecondsSinceEpoch

/-- What one device holds; `opener` is the account of the first chat on it. -/
structure Phone where
  currentUser : Option Account
  registered : Option ChatUser
  chatController : Option ChatUser
  opener : Option Account

inductive Phase
  | putFile
  | getDownloadURL
  deriving DecidableEq

structure Attachment (Device Document : Type) where
  device : Device
  user : ChatUser
  document : Document
  phase : Phase

structure State (Device Document : Type) where
  phone : Device → Phone
  attachments : List (Attachment Device Document)
  bucket : String → Option Document
  pending : List (Write Document)
  msgs : String → List (String × Write Document)
  sent : List (Write Document)

inductive Label (Device Document : Type)
  | signIn (device : Device) (account : Account)
  | signOut (device : Device)
  | openChat (device : Device)
  | leaveChat (device : Device)
  | onSend (device : Device) (text : String) (now : Int)
  | attach (device : Device) (document : Document)
  | uploaded (attachment : Nat)
  | downloadURL (attachment : Nat) (now : Int)
  | failed (attachment : Nat)
  | commit (write : Nat)

def initial : State Device Document :=
  ⟨fun _ => ⟨none,none,none,none⟩,[],fun _ => none,[],fun _ => [],[]⟩

def anna : Account := ⟨"anna",some "Anna"⟩

def ben : Account := ⟨"ben",some "Ben"⟩

def chatUser (account : Account) : ChatUser := ⟨account.uid,account.displayName⟩

/-- `Get.put(ChatController())`: the new controller counts only if none is registered. -/
def put (registered : Option ChatUser) (account : Account) : ChatUser :=
  registered.getD (chatUser account)

def storageRef : String := "chat_images"

def attachmentMessage (attachment : Attachment Device Document) : ChatMessage :=
  ⟨"",attachment.user,some ⟨storageRef⟩⟩

/-- The end of both sending paths: the session and the clock are read when the
document reference is built, and without a session that throws. -/
def runTransaction (currentUser : Option Account) (now : Int) (message : ChatMessage)
    (attached : Option Document) : List (Write Document) :=
  match currentUser with
  | none => []
  | some account => [⟨account.uid,now,message,attached⟩]

def State.issue (state : State Device Document) (writes : List (Write Document)) :
    State Device Document :=
  {state with pending := state.pending ++ writes, sent := state.sent ++ writes}

def State.upload (state : State Device Document) (index : Nat)
    (attachment : Attachment Device Document) : State Device Document :=
  {state with
    bucket := Function.update state.bucket storageRef (some attachment.document)
    attachments := state.attachments.set index {attachment with phase := .getDownloadURL}}

def State.commit (state : State Device Document) (index : Nat) (write : Write Document) :
    State Device Document :=
  {state with
    pending := state.pending.eraseIdx index
    msgs := Function.update state.msgs write.uid
      (Entries.assign write.id write (state.msgs write.uid))}

def State.set [DecidableEq Device] (state : State Device Document) (device : Device)
    (phone : Phone) : State Device Document :=
  {state with phone := Function.update state.phone device phone}

def step [DecidableEq Device] (state : State Device Document) :
    Label Device Document → Option (State Device Document)
  | .signIn device account =>
    some (state.set device {state.phone device with currentUser := some account})
  | .signOut device =>
    -- The Login page replaces the page under the drawer, ChatScreen with it; the controller stays.
    some (state.set device {state.phone device with currentUser := none, chatController := none})
  | .openChat device =>
    match (state.phone device).currentUser with
    | none => none
    | some account =>
      let controller := put (state.phone device).registered account
      some (state.set device ⟨some account,some controller,some controller,
        (state.phone device).opener.or (some account)⟩)
  | .leaveChat device =>
    some (state.set device {state.phone device with chatController := none})
  | .onSend device text now =>
    match (state.phone device).chatController with
    | none => none
    | some user =>
      some (state.issue (runTransaction (state.phone device).currentUser now ⟨text,user,none⟩ none))
  | .attach device document =>
    match (state.phone device).chatController with
    | none => none
    | some user =>
      some {state with attachments := state.attachments ++ [⟨device,user,document,.putFile⟩]}
  | .uploaded index =>
    match state.attachments[index]? with
    | none => none
    | some attachment => if attachment.phase = .putFile then some (state.upload index attachment) else none
  | .downloadURL index now =>
    match state.attachments[index]? with
    | none => none
    | some attachment =>
      if attachment.phase = .getDownloadURL then
        some ({state with attachments := state.attachments.eraseIdx index}.issue
          (runTransaction (state.phone attachment.device).currentUser now
            (attachmentMessage attachment) (some attachment.document)))
      else none
  | .failed index => some {state with attachments := state.attachments.eraseIdx index}
  | .commit index => state.pending[index]?.map (state.commit index)

def issues (state : State Device Document) : Label Device Document → List (Write Document)
  | .onSend device text now =>
    match (state.phone device).chatController with
    | none => []
    | some user => runTransaction (state.phone device).currentUser now ⟨text,user,none⟩ none
  | .downloadURL index now =>
    match state.attachments[index]? with
    | none => []
    | some attachment => runTransaction (state.phone attachment.device).currentUser now
        (attachmentMessage attachment) (some attachment.document)
  | _ => []

theorem mem_runTransaction (currentUser : Option Account) (now : Int) (message : ChatMessage)
    (attached : Option Document) (write : Write Document)
    (member : write ∈ runTransaction currentUser now message attached) :
    ∃ account, currentUser = some account ∧ write = ⟨account.uid,now,message,attached⟩ := by
  cases currentUser with
  | none => simp [runTransaction] at member
  | some account => exact ⟨account,rfl,List.mem_singleton.mp member⟩

theorem issues_cases (state : State Device Document) (label : Label Device Document)
    (write : Write Document) (member : write ∈ issues state label) :
    (∃ device text now user account, label = .onSend device text now ∧
      (state.phone device).chatController = some user ∧
      (state.phone device).currentUser = some account ∧
      write = ⟨account.uid,now,⟨text,user,none⟩,none⟩) ∨
    (∃ index now attachment account, label = .downloadURL index now ∧
      state.attachments[index]? = some attachment ∧
      (state.phone attachment.device).currentUser = some account ∧
      write = ⟨account.uid,now,attachmentMessage attachment,some attachment.document⟩) := by
  cases label with
  | onSend device text now =>
    left
    simp only [issues] at member
    cases screen : (state.phone device).chatController with
    | none => simp [screen] at member
    | some user =>
      rw [screen] at member
      obtain ⟨account,session,same⟩ := mem_runTransaction _ _ _ _ _ member
      exact ⟨device,text,now,user,account,rfl,screen,session,same⟩
  | downloadURL index now =>
    right
    simp only [issues] at member
    cases found : state.attachments[index]? with
    | none => simp [found] at member
    | some attachment =>
      rw [found] at member
      obtain ⟨account,session,same⟩ := mem_runTransaction _ _ _ _ _ member
      exact ⟨index,now,attachment,account,rfl,found,session,same⟩
  | _ => simp [issues] at member

inductive Effect [DecidableEq Device] (state : State Device Document) :
    Label Device Document → State Device Document → Prop
  | signIn (device : Device) (account : Account) : Effect state (.signIn device account)
      (state.set device {state.phone device with currentUser := some account})
  | signOut (device : Device) : Effect state (.signOut device)
      (state.set device {state.phone device with currentUser := none, chatController := none})
  | openChat (device : Device) (account : Account)
      (session : (state.phone device).currentUser = some account) : Effect state (.openChat device)
      (state.set device ⟨some account,some (put (state.phone device).registered account),
        some (put (state.phone device).registered account),
        (state.phone device).opener.or (some account)⟩)
  | leaveChat (device : Device) : Effect state (.leaveChat device)
      (state.set device {state.phone device with chatController := none})
  | onSend (device : Device) (text : String) (now : Int) (user : ChatUser)
      (screen : (state.phone device).chatController = some user) :
      Effect state (.onSend device text now) (state.issue (issues state (.onSend device text now)))
  | attach (device : Device) (document : Document) (user : ChatUser)
      (screen : (state.phone device).chatController = some user) :
      Effect state (.attach device document)
        {state with attachments := state.attachments ++ [⟨device,user,document,.putFile⟩]}
  | uploaded (index : Nat) (attachment : Attachment Device Document)
      (found : state.attachments[index]? = some attachment) :
      Effect state (.uploaded index) (state.upload index attachment)
  | downloadURL (index : Nat) (now : Int) (attachment : Attachment Device Document)
      (found : state.attachments[index]? = some attachment) : Effect state (.downloadURL index now)
      ({state with attachments := state.attachments.eraseIdx index}.issue
        (issues state (.downloadURL index now)))
  | failed (index : Nat) : Effect state (.failed index)
      {state with attachments := state.attachments.eraseIdx index}
  | commit (index : Nat) (write : Write Document) (found : state.pending[index]? = some write) :
      Effect state (.commit index) (state.commit index write)

theorem step_effect [DecidableEq Device] (state next : State Device Document)
    (label : Label Device Document) (taken : step state label = some next) :
    Effect state label next := by
  cases label with
  | signIn device account =>
    cases Option.some.inj taken
    exact Effect.signIn device account
  | signOut device =>
    cases Option.some.inj taken
    exact Effect.signOut device
  | leaveChat device =>
    cases Option.some.inj taken
    exact Effect.leaveChat device
  | failed index =>
    cases Option.some.inj taken
    exact Effect.failed index
  | commit index =>
    obtain ⟨write,found,same⟩ := Option.map_eq_some_iff.mp taken
    subst next
    exact Effect.commit index write found
  | openChat device =>
    simp only [step] at taken
    split at taken
    · contradiction
    next account session =>
      cases Option.some.inj taken
      exact Effect.openChat device account session
  | attach device document =>
    simp only [step] at taken
    split at taken
    · contradiction
    next user screen =>
      cases Option.some.inj taken
      exact Effect.attach device document user screen
  | onSend device text now =>
    simp only [step] at taken
    split at taken
    · contradiction
    next user screen =>
      cases Option.some.inj taken
      have same := Effect.onSend device text now user screen
      simpa only [issues,screen] using same
  | uploaded index =>
    simp only [step] at taken
    split at taken
    · contradiction
    next attachment found =>
      split at taken
      · cases Option.some.inj taken
        exact Effect.uploaded index attachment found
      · contradiction
  | downloadURL index now =>
    simp only [step] at taken
    split at taken
    · contradiction
    next attachment found =>
      split at taken
      · cases Option.some.inj taken
        have same := Effect.downloadURL index now attachment found
        simpa only [issues,found] using same
      · contradiction

theorem step_cases [DecidableEq Device] (state next : State Device Document)
    (label : Label Device Document) (taken : step state label = some next) :
    (∃ index attachment, label = .uploaded index ∧ state.attachments[index]? = some attachment ∧
      next = state.upload index attachment) ∨
    (∃ index write, label = .commit index ∧ state.pending[index]? = some write ∧
      next = state.commit index write) ∨
    ((∀ index, label ≠ .uploaded index) ∧ (∀ index, label ≠ .commit index) ∧
      next.bucket = state.bucket ∧ next.msgs = state.msgs ∧
      next.pending = state.pending ++ issues state label ∧
      next.sent = state.sent ++ issues state label) := by
  cases step_effect state next label taken with
  | uploaded index attachment found => exact Or.inl ⟨index,attachment,rfl,found,rfl⟩
  | commit index write found => exact Or.inr (Or.inl ⟨index,write,rfl,found,rfl⟩)
  | onSend | downloadURL => exact Or.inr (Or.inr (by simp [State.issue]))
  | _ => exact Or.inr (Or.inr (by simp [issues,State.set]))

theorem mem_commit (state : State Device Document) (index : Nat) (write : Write Document)
    (uid : String) (entry : String × Write Document)
    (member : entry ∈ (state.commit index write).msgs uid) :
    (uid = write.uid ∧ entry.2 = write) ∨ entry ∈ state.msgs uid := by
  by_cases same : uid = write.uid
  · subst uid
    have stored : entry ∈ Entries.assign write.id write (state.msgs write.uid) := by
      simpa [State.commit] using member
    rcases Entries.mem_assign _ _ _ _ stored with new | old
    · exact Or.inl ⟨rfl,congrArg Prod.snd new⟩
    · exact Or.inr old
  · right
    simpa [State.commit,same] using member

theorem commit_mem (state : State Device Document) (index : Nat) (write : Write Document) :
    (write.id,write) ∈ (state.commit index write).msgs write.uid := by
  have stored := Entries.mem_assign_self write.id write (state.msgs write.uid)
  simpa [State.commit] using stored

end VisionsAcademy.Chat
