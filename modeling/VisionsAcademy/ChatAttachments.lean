import VisionsAcademy.Chat

/-! What the URL of a stored attachment message refers to. Every upload goes to the
one path `storageRef`, so a later upload changes what earlier messages show. -/
namespace VisionsAcademy.ChatAttachments
open Chat

variable {Device Document : Type}

def Refers (state : State Device Document) : Prop :=
  ∀ uid, ∀ entry ∈ state.msgs uid, ∀ url, entry.2.message.image = some url →
    state.bucket url.path = entry.2.attached

/-- An upload completes only while every stored attachment is that same document, and
an attachment message commits only while no other document replaced its own. -/
def Undisturbed (state : State Device Document) : Label Device Document → Prop
  | .uploaded index => ∀ attachment, state.attachments[index]? = some attachment →
      ∀ uid, ∀ entry ∈ state.msgs uid, entry.2.attached.isSome →
        entry.2.attached = some attachment.document
  | .commit index => ∀ write, state.pending[index]? = some write → write.attached.isSome →
      state.bucket storageRef = write.attached
  | _ => True

def Shared (write : Write Document) : Prop :=
  write.message.image = write.attached.map fun _ => ⟨storageRef⟩

def Shape (state : State Device Document) : Prop :=
  (∀ write ∈ state.pending, Shared write) ∧
  ∀ uid, ∀ entry ∈ state.msgs uid, Shared entry.2

theorem shared_image (write : Write Document) (shared : Shared write) (url : Url) :
    write.message.image = some url ↔ write.attached.isSome ∧ url.path = storageRef := by
  rw [shared]
  rcases url with ⟨path⟩
  cases write.attached with
  | none => simp
  | some document => simp [eq_comm]

theorem shape_step [DecidableEq Device] (state : State Device Document)
    (label : Label Device Document) (next : State Device Document) (shape : Shape state)
    (taken : step state label = some next) : Shape next := by
  rcases step_cases state next label taken with
    ⟨index,attachment,_,_,rfl⟩ | ⟨index,write,_,found,rfl⟩ | ⟨_,_,_,msgs,pending,_⟩
  · exact shape
  · constructor
    · intro other member
      exact shape.1 other (List.mem_of_mem_eraseIdx member)
    · intro uid entry member
      rcases mem_commit state index write uid entry member with ⟨_,same⟩ | old
      · rw [same]
        exact shape.1 write (List.mem_of_getElem? found)
      · exact shape.2 uid entry old
  · constructor
    · intro write member
      rw [pending] at member
      rcases List.mem_append.mp member with old | new
      · exact shape.1 write old
      · rcases issues_cases state label write new with
          ⟨_,_,_,_,_,_,_,_,rfl⟩ | ⟨_,_,_,_,_,_,_,rfl⟩
        · rfl
        · rfl
    · rw [msgs]
      exact shape.2

theorem refers_upload (state : State Device Document) (index : Nat)
    (attachment : Attachment Device Document) (shape : Shape state) :
    Refers (state.upload index attachment) ↔ ∀ uid, ∀ entry ∈ state.msgs uid,
      entry.2.attached.isSome → entry.2.attached = some attachment.document := by
  have object : (state.upload index attachment).bucket storageRef = some attachment.document := by
    simp [State.upload]
  constructor
  · intro refers uid entry member attached
    have image := (shared_image entry.2 (shape.2 uid entry member) ⟨storageRef⟩).mpr ⟨attached,rfl⟩
    have denoted := refers uid entry member ⟨storageRef⟩ image
    rw [← denoted]
    exact object
  · intro same uid entry member url image
    obtain ⟨attached,path⟩ := (shared_image entry.2 (shape.2 uid entry member) url).mp image
    rw [path,object]
    exact (same uid entry member attached).symm

theorem refers_commit (state : State Device Document) (index : Nat) (write : Write Document)
    (shape : Shape state) (found : state.pending[index]? = some write) (refers : Refers state) :
    Refers (state.commit index write) ↔
      (write.attached.isSome → state.bucket storageRef = write.attached) := by
  have shared := shape.1 write (List.mem_of_getElem? found)
  constructor
  · intro after attached
    have image := (shared_image write shared ⟨storageRef⟩).mpr ⟨attached,rfl⟩
    exact after write.uid (write.id,write) (commit_mem state index write) ⟨storageRef⟩ image
  · intro own uid entry member url image
    rcases mem_commit state index write uid entry member with ⟨_,same⟩ | old
    · rw [same] at image ⊢
      obtain ⟨attached,path⟩ := (shared_image write shared url).mp image
      rw [path]
      exact own attached
    · exact refers uid entry old url image

theorem refers_step [DecidableEq Device] (state : State Device Document)
    (label : Label Device Document) (next : State Device Document) (shape : Shape state)
    (refers : Refers state) (taken : step state label = some next) :
    Refers next ↔ Undisturbed state label := by
  rcases step_cases state next label taken with
    ⟨index,attachment,rfl,found,rfl⟩ | ⟨index,write,rfl,found,rfl⟩ |
    ⟨notUpload,notCommit,bucket,msgs,_,_⟩
  · rw [refers_upload state index attachment shape]
    simp [Undisturbed,found]
  · rw [refers_commit state index write shape found refers]
    simp [Undisturbed,found]
  · have kept : Refers next := by
      simpa only [Refers,bucket,msgs] using refers
    refine iff_of_true kept ?_
    cases label with
    | uploaded index => exact absurd rfl (notUpload index)
    | commit index => exact absurd rfl (notCommit index)
    | _ => trivial

theorem run_refers [DecidableEq Device] (labels : List (Label Device Document)) :
    Runs.Throughout step Refers (initial : State Device Document) labels ↔
      Runs.Along step Undisturbed initial labels := by
  apply Runs.throughout_iff Shape Refers Undisturbed shape_step refers_step
  · exact ⟨by simp [initial],by simp [initial]⟩
  · intro uid entry member
    simp [initial] at member

theorem second_upload : ¬ Runs.Throughout step Refers (initial : State Unit String)
    [.signIn () anna,.openChat (),.attach () "first.pdf",.uploaded 0,.downloadURL 0 1000,.commit 0,
      .attach () "second.pdf",.uploaded 0] := by
  intro throughout
  have refers := throughout _ [] _ (List.append_nil _).symm rfl
  have shown : some "second.pdf" = some "first.pdf" :=
    refers "anna" _ List.mem_cons_self ⟨storageRef⟩ rfl
  simp at shown

end VisionsAcademy.ChatAttachments
