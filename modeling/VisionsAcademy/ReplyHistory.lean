import Mathlib.Algebra.BigOperators.Group.List.Basic
import Mathlib.Algebra.Order.Ring.Int
import VisionsAcademy.Library.Refinement
import VisionsAcademy.QuickReplies

/-! What a whole history of quick replies leaves behind: the conversation ChatScreen
displays, and the exceptions its timers throw, in whatever order they fire. -/
namespace VisionsAcademy.ReplyHistory
open Chat QuickReplies

variable {Document : Type}

def snapshots : Label Document → Option (Option (List Document))
  | .snapshot docs => some docs
  | .rebuild | .onQuickReply _ _ | .fire _ => none

def chosen (user : ChatUser) : Label Document → Option (QuickReplies.ChatMessage Document)
  | .onQuickReply reply now => some (.chosen reply.value now user)
  | .snapshot _ | .rebuild | .fire _ => none

/-- What the stream delivered last, `none` also when it has delivered nothing yet. -/
def latest (labels : List (Label Document)) : Option (List Document) :=
  (labels.reverse.findSome? snapshots).join

def recent (user : ChatUser) (labels : List (Label Document)) :
    List (QuickReplies.ChatMessage Document) :=
  ((labels.reverse.takeWhile fun label => !label.rebuilds).filterMap (chosen user)).reverse

/-- Only the first recent reply is displayed: it goes into the list that DashChat holds, the
others into a copy. -/
def conversation (user : ChatUser) (labels : List (Label Document)) : Option (Built Document) :=
  (latest labels).map fun docs =>
    ⟨docs.map .fromJson ++ (recent user labels).take 1,
      docs.map .fromJson ++ recent user labels,(recent user labels).isEmpty⟩

@[simp] theorem latest_append (labels : List (Label Document)) (label : Label Document) :
    latest (labels ++ [label]) = match snapshots label with
      | some docs => docs
      | none => latest labels := by
  unfold latest
  rw [List.reverse_append,List.reverse_singleton,List.singleton_append,List.findSome?_cons]
  cases snapshots label <;> rfl

@[simp] theorem recent_append (user : ChatUser) (labels : List (Label Document))
    (label : Label Document) : recent user (labels ++ [label]) =
      if label.rebuilds then [] else recent user labels ++ (chosen user label).toList := by
  unfold recent
  rw [List.reverse_append,List.reverse_singleton,List.singleton_append]
  cases rebuilt : label.rebuilds with
  | true => simp [rebuilt]
  | false => cases added : chosen user label <;> simp [rebuilt,added]

structure Shows (user : ChatUser) (past : List (Label Document)) (state : State Document) : Prop where
  unfilled : Unfilled state
  snapshot : state.snapshot = latest past
  dashChat : state.dashChat = conversation user past
  messages : state.messages = []

theorem initial_shows (user : ChatUser) : Shows user [] (initial : State Document) where
  unfilled := initial_unfilled
  snapshot := rfl
  dashChat := rfl
  messages := rfl

theorem build_conversation (user : ChatUser) (past : List (Label Document)) (label : Label Document)
    (rebuilt : label.rebuilds = true) :
    builder (latest (past ++ [label])) = conversation user (past ++ [label]) := by
  unfold builder conversation
  rw [recent_append,if_pos rebuilt]
  simp

theorem add_conversation (user : ChatUser) (past : List (Label Document)) (reply : Reply) (now : Int) :
    (conversation user past).map (fun built => built.add (.chosen reply.value now user)) =
      conversation user (past ++ [.onQuickReply reply now]) := by
  unfold conversation
  rw [latest_append,recent_append]
  cases latest past with
  | none => rfl
  | some docs => cases recent user past <;> simp [Built.add,snapshots,chosen,Label.rebuilds]

/-- No callback of a timer changes what is displayed: the list that systemMessage adds to is
the field of the state, which no builder reads, and nothing gets into it. -/
theorem fire_shown (state : State Document) (timer : Timer) (unfilled : Unfilled state) :
    (state.fire timer).snapshot = state.snapshot ∧ (state.fire timer).dashChat = state.dashChat ∧
      (state.fire timer).messages = state.messages := by
  by_cases system : timer = .systemMessage
  · subst timer
    rw [fire_systemMessage state unfilled]
    exact ⟨rfl,rfl,rfl⟩
  · obtain ⟨timers,started⟩ := fire_start state timer system
    rw [started]
    exact ⟨rfl,rfl,rfl⟩

theorem step_shows (user : ChatUser) (past : List (Label Document)) (state : State Document)
    (label : Label Document) (next : State Document) (shows : Shows user past state)
    (taken : step user state label = some next) : Shows user (past ++ [label]) next := by
  have unfilled := step_unfilled user state label next shows.unfilled taken
  cases label with
  | snapshot docs =>
    cases Option.some.inj taken
    have current : latest (past ++ [.snapshot docs]) = docs := latest_append past _
    refine ⟨unfilled,current.symm,?_,shows.messages⟩
    have built := build_conversation user past (.snapshot docs) rfl
    rwa [current] at built
  | rebuild =>
    cases Option.some.inj taken
    have current : latest (past ++ [.rebuild]) = latest past := latest_append past _
    refine ⟨unfilled,shows.snapshot.trans current.symm,?_,shows.messages⟩
    have built := build_conversation user past .rebuild rfl
    rwa [current,← shows.snapshot] at built
  | onQuickReply reply now =>
    obtain ⟨built,displayed,rfl⟩ := Option.map_eq_some_iff.mp taken
    have current : latest (past ++ [.onQuickReply reply now]) = latest past := latest_append past _
    refine ⟨unfilled,shows.snapshot.trans current.symm,?_,shows.messages⟩
    have added := add_conversation user past reply now
    rwa [← shows.dashChat,displayed] at added
  | fire timer =>
    obtain ⟨callback,_,rfl⟩ := Option.map_eq_some_iff.mp taken
    have current : latest (past ++ [.fire timer]) = latest past := latest_append past _
    have same : conversation user (past ++ [.fire timer]) = conversation user past := by
      unfold conversation
      rw [current,recent_append]
      simp [Label.rebuilds,chosen]
    obtain ⟨snapshot,dashChat,messages⟩ := fire_shown (state.elapse timer) callback
      (elapse_unfilled state timer shows.unfilled)
    refine ⟨unfilled,?_,?_,messages.trans shows.messages⟩
    · exact snapshot.trans (shows.snapshot.trans current.symm)
    · exact dashChat.trans (shows.dashChat.trans same.symm)

theorem conversation_shown (user : ChatUser) (labels : List (Label Document))
    (final : State Document) (reached : Runs.run (step user) initial labels = some final) :
    final.dashChat = conversation user labels ∧ final.messages = [] := by
  have shows := Refinement.run_history (Shows user) (step_shows user) [] labels initial final
    (initial_shows user) reached
  exact ⟨shows.dashChat,shows.messages⟩

theorem conversation_shown_example :
    let built : Built String := ⟨[.fromJson "How can we help?",.chosen "yes" 0 (chatUser anna)],
      [.fromJson "How can we help?",.chosen "yes" 0 (chatUser anna),.chosen "yes" 0 (chatUser anna)],
      false⟩
    let final : State String := ⟨some ["How can we help?"],some built,[],[],0,
      [.onQuickReply,.onQuickReply],[.chosen "yes" 0 (chatUser anna),.chosen "yes" 0 (chatUser anna)],0⟩
    Runs.run (step (chatUser anna)) initial [greeting,yes,yes] = some final ∧
      conversation (chatUser anna) [greeting,yes,yes] = some built ∧
      conversation (chatUser anna) [greeting,yes,yes,.rebuild] =
        some ⟨[.fromJson "How can we help?"],[.fromJson "How can we help?"],true⟩ := by
  refine ⟨rfl,?_,?_⟩
  · exact (conversation_shown (chatUser anna) [greeting,yes,yes] _ rfl).1.symm
  · exact (conversation_shown (chatUser anna) [greeting,yes,yes,.rebuild] _ rfl).1.symm

/-- The reads of `m` that a running timer leads to: `i` stays zero, so the one of
onQuickReply starts systemMessage twice. -/
def reads : Timer → Nat
  | .onQuickReply => 2
  | .again => 1
  | .systemMessage => 1
  | .animateTo => 0

def owed (timers : List Timer) : Nat := (timers.map reads).sum

/-- The reads that the replies chosen so far should have led to, less those done or owed. -/
def missed (state : State Document) : Int :=
  2 * state.replies.length - (state.rangeErrors + owed state.timers)

def Present (state : State Document) : Label Document → Prop
  | .snapshot _ | .rebuild | .onQuickReply _ _ => True
  | .fire timer => state.timers[timer]? = some .onQuickReply → state.dashChat.isSome = true

@[simp] theorem owed_append (first second : List Timer) :
    owed (first ++ second) = owed first + owed second := by
  unfold owed
  rw [List.map_append,List.sum_append]

theorem owed_eraseIdx (timers : List Timer) (index : Nat) (timer : Timer)
    (running : timers[index]? = some timer) :
    owed timers = reads timer + owed (timers.eraseIdx index) := by
  obtain ⟨bound,rfl⟩ := List.getElem?_eq_some_iff.mp running
  have same := (List.getElem_cons_eraseIdx_perm bound).map reads
  exact same.sum_eq.symm

theorem elapse_missed (state : State Document) (index : Nat) (timer : Timer)
    (running : state.timers[index]? = some timer) :
    missed (state.elapse index) = missed state + reads timer := by
  have paid := owed_eraseIdx state.timers index timer running
  unfold missed
  rw [paid]
  change 2 * (state.replies.length : Int) - (state.rangeErrors + owed (state.timers.eraseIdx index)) = _
  omega

theorem start_missed (state : State Document) (timers : List Timer) :
    missed (state.start timers) = missed state - owed timers := by
  unfold missed
  change 2 * (state.replies.length : Int) - (state.rangeErrors + owed (state.timers ++ timers)) = _
  rw [owed_append]
  omega

theorem fire_missed (state : State Document) (timer : Timer) (unfilled : Unfilled state) :
    missed (state.fire timer) = missed state -
      if timer = .onQuickReply ∧ state.dashChat = none then 0 else reads timer := by
  cases timer with
  | onQuickReply =>
    cases displayed : state.dashChat with
    | none => simp [State.fire,displayed]
    | some built =>
      simp only [State.fire,displayed,unfilled.i,if_true,State.systemMessage,start_missed]
      simp [owed,reads]
      omega
  | again =>
    simp only [State.fire,State.systemMessage,start_missed]
    simp [owed,reads]
  | systemMessage =>
    rw [fire_systemMessage state unfilled]
    simp [missed,reads]
    omega
  | animateTo => simp [State.fire,reads]

theorem step_missed (user : ChatUser) (state : State Document) (label : Label Document)
    (next : State Document) (unfilled : Unfilled state) (taken : step user state label = some next) :
    missed state ≤ missed next ∧ (missed next = missed state ↔ Present state label) := by
  cases label with
  | snapshot docs =>
    cases Option.some.inj taken
    exact ⟨le_refl _,iff_of_true rfl trivial⟩
  | rebuild =>
    cases Option.some.inj taken
    exact ⟨le_refl _,iff_of_true rfl trivial⟩
  | onQuickReply reply now =>
    obtain ⟨built,_,rfl⟩ := Option.map_eq_some_iff.mp taken
    have same : missed (state.onQuickReply built (.chosen reply.value now user)) = missed state := by
      unfold State.onQuickReply
      rw [start_missed]
      simp [missed,owed,reads]
      omega
    exact ⟨same.ge,iff_of_true same trivial⟩
  | fire timer =>
    obtain ⟨callback,running,rfl⟩ := Option.map_eq_some_iff.mp taken
    have fired := fire_missed (state.elapse timer) callback (elapse_unfilled state timer unfilled)
    rw [elapse_missed state timer callback running] at fired
    change missed ((state.elapse timer).fire callback) = missed state + reads callback -
      (if callback = .onQuickReply ∧ state.dashChat = none then 0 else reads callback : Nat) at fired
    have condition : Present state (.fire timer) ↔
        ¬(callback = .onQuickReply ∧ state.dashChat = none) := by
      change (state.timers[timer]? = _ → _) ↔ _
      rw [running]
      cases state.dashChat <;> simp
    rw [condition,fired]
    by_cases absent : callback = .onQuickReply ∧ state.dashChat = none
    · obtain ⟨rfl,gone⟩ := absent
      rw [if_pos ⟨rfl,gone⟩]
      refine ⟨?_,iff_of_false ?_ (not_not.mpr ⟨rfl,gone⟩)⟩ <;> simp [reads]
    · rw [if_neg absent]
      exact ⟨by omega,iff_of_true (by omega) absent⟩

theorem reads_counted (user : ChatUser) (labels : List (Label Document)) (final : State Document)
    (reached : Runs.run (step user) initial labels = some final) :
    final.rangeErrors + owed final.timers ≤ 2 * final.replies.length ∧
      (final.rangeErrors + owed final.timers = 2 * final.replies.length ↔
        Runs.Along (step user) Present initial labels) := by
  obtain ⟨grown,constant⟩ := Refinement.run_constant_iff Unfilled missed Present
    (step_unfilled user)
    (fun state label next unfilled taken => (step_missed user state label next unfilled taken).1)
    (fun state label next unfilled taken => (step_missed user state label next unfilled taken).2)
    initial final labels initial_unfilled reached
  have begun : missed (initial : State Document) = 0 := rfl
  rw [begun] at grown constant
  rw [← constant]
  unfold missed at grown ⊢
  constructor
  · omega
  · constructor <;> intro same <;> omega

/-- One reply has cost its two reads when its timers are through, and none when the chat
has gone before its timer. -/
theorem reads_counted_example :
    let paid : State String := ⟨some ["How can we help?"],
      some ⟨[.fromJson "How can we help?",.chosen "yes" 0 (chatUser anna)],
        [.fromJson "How can we help?",.chosen "yes" 0 (chatUser anna)],false⟩,[],[],0,[],
      [.chosen "yes" 0 (chatUser anna)],2⟩
    let gone : State String := ⟨none,none,[],[],0,[],[.chosen "yes" 0 (chatUser anna)],0⟩
    Runs.run (step (chatUser anna)) initial [greeting,yes,.fire 0,.fire 0,.fire 0,.fire 0] =
        some paid ∧
      Runs.Along (step (chatUser anna)) Present initial
        [greeting,yes,.fire 0,.fire 0,.fire 0,.fire 0] ∧
      Runs.run (step (chatUser anna)) initial [greeting,yes,.snapshot none,.fire 0] = some gone ∧
      ¬Runs.Along (step (chatUser anna)) Present initial [greeting,yes,.snapshot none,.fire 0] := by
  refine ⟨rfl,?_,rfl,?_⟩
  · exact (reads_counted (chatUser anna) [greeting,yes,.fire 0,.fire 0,.fire 0,.fire 0] _ rfl).2.mp rfl
  · intro along
    have counted := reads_counted (chatUser anna) [greeting,yes,.snapshot none,.fire 0] _ rfl
    exact absurd (counted.2.mpr along) (by decide)

end VisionsAcademy.ReplyHistory
