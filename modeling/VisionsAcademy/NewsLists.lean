import VisionsAcademy.Library.Refinement
import VisionsAcademy.PageLifetimes

/-! What a page of lib/Home_and_Screen/news.dart shows. `populateNewsList` adds the documents one
by one and stops at the first that it cannot read; the notifications are only asked for once all
news are in. -/
namespace VisionsAcademy.NewsLists
open DocumentStore DartDynamic FirebaseProvider PageLifetimes

def readable : List Fields → List NewsModel
  | [] => []
  | result::rest =>
    match newsModel result with
    | .ok obj => obj::readable rest
    | .error _ => []

/-- The answers that the reads of a page got in a run, none for a read that failed. -/
def answers (index : Nat) (labels : List Label) : List (Option (List Fields)) :=
  labels.filterMap fun label => match label with
    | .querySnapshot page docs => if page = index then some docs else none
    | _ => none

def expected : List (Option (List Fields)) → List NewsModel × List NewsModel × Await
  | [] => ([],[],.news)
  | none::_ => ([],[],.returned)
  | some docs::later =>
    if (readable docs).length = docs.length then
      match later with
      | [] => (readable docs,[],.notification)
      | second::_ => (readable docs,readable (second.getD []),.returned)
    else (readable docs,[],.returned)

theorem forEach_readable (docs : List Fields) (list : List NewsModel) :
    (forEach true docs list).list = list ++ readable docs ∧
      ((forEach true docs list).completed = true ↔ (readable docs).length = docs.length) := by
  induction docs generalizing list with
  | nil => simp [forEach,readable]
  | cons result rest ih =>
    rw [forEach,readable]
    cases newsModel result with
    | error thrown => simp
    | ok obj => simpa using ih (list ++ [obj])

theorem populate_alive (page : News) (docs : Option (List Fields)) :
    (page.populate docs).1.mounted = page.mounted := by
  obtain ⟨mounted,newsList,notificationList,await⟩ := page
  cases docs with
  | none => rfl
  | some docs =>
    cases await with
    | news =>
      simp only [News.populate]
      split <;> rfl
    | notification | returned => rfl

theorem populate_expected (page : News) (past : List (Option (List Fields)))
    (docs : Option (List Fields)) (mounted : page.mounted = true) (going : page.await ≠ .returned)
    (listed : (page.newsList,page.notificationList,page.await) = expected past) :
    ((page.populate docs).1.newsList,(page.populate docs).1.notificationList,
      (page.populate docs).1.await) = expected (past ++ [docs]) := by
  obtain ⟨alive,newsList,notificationList,await⟩ := page
  cases mounted
  simp only at going listed
  cases past with
  | nil =>
    cases listed
    cases docs with
    | none => rfl
    | some docs =>
      have filled := forEach_readable docs []
      by_cases all : (readable docs).length = docs.length
      · simp [News.populate,filled.1,filled.2.mpr all,expected,all]
      · simp [News.populate,filled.1,mt filled.2.mp all,expected,all]
  | cons first later =>
    cases first with
    | none =>
      cases listed
      contradiction
    | some first =>
      by_cases all : (readable first).length = first.length
      · cases later with
        | nil =>
          simp only [expected,all,if_true] at listed
          cases listed
          cases docs with
          | none => simp [News.populate,expected,all,readable]
          | some docs => simp [News.populate,expected,all,(forEach_readable docs []).1]
        | cons second rest =>
          simp only [expected,all,if_true] at listed
          cases listed
          contradiction
      · simp only [expected,all,if_false] at listed
        cases listed
        contradiction

theorem answers_append (index : Nat) (past : List Label) (label : Label) :
    answers index (past ++ [label]) = answers index past ++ answers index [label] :=
  List.filterMap_append ..

theorem news_step (state : State) (label : Label) (next : State) (taken : step state label = some next) :
    ((∀ index, answers index [label] = []) ∧ (next.news = state.news ∨
      next.news = state.news ++ [⟨true,[],[],.news⟩] ∨
      ∃ page, next.news = state.news.modify page fun news => {news with mounted := false})) ∨
    ∃ page docs news, label = .querySnapshot page docs ∧ state.news[page]? = some news ∧
      news.await ≠ .returned ∧ next.news = state.news.set page (news.populate docs).1 := by
  cases label with
  | openScreenVideo | onError =>
    cases Option.some.inj taken
    exact Or.inl ⟨fun _ => rfl,Or.inl rfl⟩
  | enterTab | leaveTab =>
    simp only [step] at taken
    split at taken
    · cases Option.some.inj taken
      exact Or.inl ⟨fun _ => rfl,Or.inl rfl⟩
    · contradiction
  | closeScreenVideo =>
    simp only [step] at taken
    split at taken
    next courseName chaptNo upVid2 _ =>
      cases Option.some.inj taken
      refine Or.inl ⟨fun _ => rfl,Or.inl ?_⟩
      cases upVid2 <;> rfl
    next => contradiction
  | snapshot =>
    simp only [step] at taken
    split at taken
    next courseName chaptNo callback _ =>
      split at taken
      · split at taken
        next videos _ =>
          cases Option.some.inj taken
          refine Or.inl ⟨fun _ => rfl,Or.inl ?_⟩
          rw [State.callback]
          split
          · rfl
          · split <;> rfl
        next =>
          cases Option.some.inj taken
          exact Or.inl ⟨fun _ => rfl,Or.inl rfl⟩
      · contradiction
    next => contradiction
  | openNews =>
    cases Option.some.inj taken
    exact Or.inl ⟨fun _ => rfl,Or.inr (Or.inl rfl)⟩
  | closeNews page =>
    cases Option.some.inj taken
    exact Or.inl ⟨fun _ => rfl,Or.inr (Or.inr ⟨page,rfl⟩)⟩
  | querySnapshot page docs =>
    simp only [step] at taken
    split at taken
    next news found =>
      split at taken
      next => contradiction
      next going =>
        cases Option.some.inj taken
        exact Or.inr ⟨page,docs,news,rfl,found,going,rfl⟩
    next => contradiction

/-- Every page that is still mounted shows what its answers say; pages yet to come have none. -/
structure Told (past : List Label) (state : State) : Prop where
  shown : ∀ index page, state.news[index]? = some page → page.mounted = true →
    (page.newsList,page.notificationList,page.await) = expected (answers index past)
  unborn : ∀ index, state.news.length ≤ index → answers index past = []

theorem told_step (past : List Label) (state : State) (label : Label) (next : State)
    (told : Told past state) (taken : step state label = some next) : Told (past ++ [label]) next := by
  rcases news_step state label next taken with
    ⟨silent,changed⟩ | ⟨index,docs,news,rfl,found,going,changed⟩
  · have same (index : Nat) : answers index (past ++ [label]) = answers index past := by
      rw [answers_append,silent,List.append_nil]
    rcases changed with kept | opened | ⟨closed,changed⟩
    · refine ⟨?_,?_⟩ <;> simp only [kept,same]
      · exact told.shown
      · exact told.unborn
    · refine ⟨?_,?_⟩ <;> simp only [opened,same]
      · intro index page here alive
        by_cases old : index < state.news.length
        · rw [List.getElem?_append_left old] at here
          exact told.shown index page here alive
        · have fresh := told.unborn index (Nat.le_of_not_lt old)
          rw [List.getElem?_append_right (Nat.le_of_not_lt old)] at here
          obtain rfl := List.mem_singleton.mp (List.mem_of_getElem? here)
          rw [fresh]
          rfl
      · intro index beyond
        rw [List.length_append] at beyond
        exact told.unborn index (by omega)
    · refine ⟨?_,?_⟩ <;> simp only [changed,same,List.length_modify]
      · intro index page here alive
        rw [List.getElem?_modify] at here
        obtain ⟨before,present,after⟩ := Option.map_eq_some_iff.mp here
        split at after
        · cases after
          contradiction
        · cases after
          exact told.shown index page present alive
      · exact told.unborn
  · have own : answers index (past ++ [.querySnapshot index docs]) = answers index past ++ [docs] := by
      rw [answers_append]
      simp [answers]
    have other (away : Nat) (apart : index ≠ away) :
        answers away (past ++ [.querySnapshot index docs]) = answers away past := by
      rw [answers_append]
      simp [answers,apart]
    obtain ⟨bound,_⟩ := List.getElem?_eq_some_iff.mp found
    refine ⟨?_,?_⟩ <;> simp only [changed,List.length_set]
    · intro away page here alive
      by_cases same : index = away
      · subst same
        rw [List.getElem?_set_self bound] at here
        cases here
        rw [own]
        have mounted : news.mounted = true := (populate_alive news docs).symm.trans alive
        exact populate_expected news _ docs mounted going (told.shown index news found mounted)
      · rw [List.getElem?_set_ne same] at here
        rw [other away same]
        exact told.shown away page here alive
    · intro away beyond
      rw [other away (by omega)]
      exact told.unborn away beyond

theorem news_shown (labels : List Label) (final : State)
    (reached : Runs.run step initial labels = some final) (index : Nat) (page : News)
    (found : final.news[index]? = some page) (mounted : page.mounted = true) :
    (page.newsList,page.notificationList,page.await) = expected (answers index labels) := by
  have begun : Told [] initial := by
    refine ⟨?_,?_⟩ <;> simp [initial,answers]
  have told := Refinement.run_history Told told_step [] labels initial final begun reached
  exact told.shown index page found mounted

theorem news_shown_example :
    ([⟨some "Exam",some "Room 4","9:00"⟩],[],Await.returned) =
      expected (answers 0 [.openNews,.querySnapshot 0 (some [[("title",.string "Exam"),
        ("detail",.string "Room 4"),("time",.string "9:00")],[("title",.string "Trip")]])]) :=
  news_shown [.openNews,.querySnapshot 0 (some [[("title",.string "Exam"),
      ("detail",.string "Room 4"),("time",.string "9:00")],[("title",.string "Trip")]])]
    ⟨[],[],[],[⟨true,[⟨some "Exam",some "Room 4","9:00"⟩],[],.returned⟩],[true],[true,true]⟩ rfl 0 _ rfl
    rfl

end VisionsAcademy.NewsLists
