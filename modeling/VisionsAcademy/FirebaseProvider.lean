import VisionsAcademy.Library.Words
import VisionsAcademy.Library.Dynamic

/-! The collection Videos: saveVideo and the decoder behind listenToVideos, which looks
for a field by its name in the printed form of the whole document. -/
namespace VisionsAcademy.FirebaseProvider
open DocumentStore DartDynamic

structure VideoInfo where
  videoUrl : Option String
  thumbUrl : Option String
  coverUrl : Option String
  aspectRatio : Value
  uploadedAt : Value
  videoName : Option String
  courseName : Option String
  chapter : Value

def contains (printed pattern : String) : Bool := decide (pattern.toList <:+: printed.toList)

def get (ds : Fields) (name : String) : Except Thrown Value :=
  match ds.lookup name with
  | some value => .ok value
  | none => .error .stateError

theorem get_ok (ds : Fields) (name : String) (value : Value) :
    get ds name = .ok value ↔ ds.lookup name = some value := by
  rw [get]
  split
  next found => rw [found,Except.ok.injEq,Option.some.injEq]
  next absent => simp [absent]

def field (ds : Fields) (name : String) : Except Thrown Value :=
  if contains (text (data (some ds))) name then get ds name else .ok (.string "")

def videoInfo (ds : Fields) : Except Thrown VideoInfo := do
  let videoUrl ← asString (← field ds "videoUrl")
  let thumbUrl ← asString (← field ds "thumbUrl")
  let coverUrl ← asString (← field ds "coverUrl")
  let aspectRatio ← field ds "aspectRatio"
  let videoName ← asString (← field ds "videoName")
  let chapter ← field ds "chapterNo"
  let courseName ← asString (← field ds "CourseName")
  -- The decoding of uploadedAt is commented out.
  return ⟨videoUrl,thumbUrl,coverUrl,aspectRatio,.null,videoName,courseName,chapter⟩

def mapQueryToVideoInfo (qs : List Fields) : Except Thrown (List VideoInfo) := qs.mapM videoInfo

def textNames : List String := ["videoUrl","thumbUrl","coverUrl","videoName","CourseName"]

def decodedNames : List String := textNames ++ ["aspectRatio","chapterNo"]

def Typed (ds : Fields) : Prop :=
  ∀ name ∈ textNames, ∀ value, ds.lookup name = some value → ∃ text, value = ofString text

def stored (ds : Fields) (name : String) : Value := (ds.lookup name).getD (.string "")

structure Decoded (ds : Fields) (video : VideoInfo) : Prop where
  videoUrl : ofString video.videoUrl = stored ds "videoUrl"
  thumbUrl : ofString video.thumbUrl = stored ds "thumbUrl"
  coverUrl : ofString video.coverUrl = stored ds "coverUrl"
  aspectRatio : video.aspectRatio = stored ds "aspectRatio"
  videoName : ofString video.videoName = stored ds "videoName"
  courseName : ofString video.courseName = stored ds "CourseName"
  chapter : video.chapter = stored ds "chapterNo"

def Decodes (qs : List Fields) : Prop :=
  ∃ videos, mapQueryToVideoInfo qs = .ok videos ∧ List.Forall₂ Decoded qs videos

def Mentions (ds : Fields) (name : String) : Prop :=
  ∃ entry ∈ ds, name.toList <:+: entry.1.toList ∨ name.toList <:+: (text entry.2).toList

def separators : List Char := ['\x7b','\x7d',',',' ',':']

/-- A name that the punctuation of a printed map cannot be part of. -/
def Word (name : String) : Prop :=
  name.toList ≠ [] ∧ ∀ character ∈ separators, character ∉ name.toList

-- Named, so that no enumeration of all characters is chosen instead.
instance (name : String) : Decidable (Word name) :=
  @instDecidableAnd _ _ inferInstance (List.decidableBAll _ _)

theorem Word.clear (name : String) (word : Word name) (characters : List Char)
    (listed : characters.all separators.contains = true) :
    ∀ character ∈ characters, character ∉ name.toList := by
  intro character member
  apply word.2
  simpa using List.all_eq_true.mp listed character member

theorem part_mentions (name key printed : String) (word : Word name) :
    name.toList <:+: (key ++ ": " ++ printed).toList ↔
      name.toList <:+: key.toList ∨ name.toList <:+: printed.toList := by
  rw [String.toList_append,String.toList_append]
  exact Words.infix_parted _ _ _ _ word.1 (by decide) (word.clear name _ (by decide))

/-- The printed document contains a name where a key or a printed value does: the name
cannot reach across the separators. -/
theorem contains_mentions (ds : Fields) (name : String) (word : Word name) :
    contains (text (data (some ds))) name = true ↔ Mentions ds name := by
  rw [contains,decide_eq_true_eq,data,text_map,String.toList_append,String.toList_append,
    Words.infix_enclosed _ _ _ _ word.1 (word.clear name _ (by decide))
      (word.clear name _ (by decide)),
    String.toList_intercalate,
    Words.infix_intercalate _ _ _ word.1 (by decide) (word.clear name _ (by decide))]
  simp only [List.mem_map,Mentions]
  constructor
  · rintro ⟨_,⟨_,⟨entry,member,rfl⟩,rfl⟩,inside⟩
    exact ⟨entry,member,(part_mentions name entry.1 (text entry.2) word).mp inside⟩
  · rintro ⟨entry,member,inside⟩
    exact ⟨_,⟨_,⟨entry,member,rfl⟩,rfl⟩,
      (part_mentions name entry.1 (text entry.2) word).mpr inside⟩

theorem decodedNames_words : ∀ name ∈ decodedNames, Word name := by
  decide

theorem field_present (ds : Fields) (name : String) (member : name ∈ decodedNames) (value : Value)
    (present : ds.lookup name = some value) : field ds name = .ok value := by
  have found : contains (text (data (some ds))) name = true :=
    (contains_mentions ds name (decodedNames_words name member)).mpr
      ⟨(name,value),Entries.lookup_mem name value ds present,Or.inl List.infix_rfl⟩
  rw [field,if_pos found,get,present]

theorem field_ok (ds : Fields) (name : String) (member : name ∈ decodedNames) (value : Value)
    (read : field ds name = .ok value) : ds.lookup name = none → ¬ Mentions ds name := by
  intro absent mentioned
  have found := contains_mentions ds name (decodedNames_words name member)
  rw [field,get,absent,if_pos (found.mpr mentioned)] at read
  contradiction

theorem field_absent (ds : Fields) (name : String) (member : name ∈ decodedNames)
    (absent : ds.lookup name = none) :
    field ds name = .ok (.string "") ↔ ¬ Mentions ds name := by
  constructor
  · intro read
    exact field_ok ds name member _ read absent
  · intro unmentioned
    have found := contains_mentions ds name (decodedNames_words name member)
    exact if_neg (mt found.mp unmentioned)

def Unmentioned (ds : Fields) : Prop :=
  ∀ name ∈ decodedNames, ds.lookup name = none → ¬ Mentions ds name

theorem field_stored (ds : Fields) (name : String) (member : name ∈ decodedNames) :
    field ds name = .ok (stored ds name) ↔ (ds.lookup name = none → ¬ Mentions ds name) := by
  cases present : ds.lookup name with
  | none =>
    rw [stored,present,Option.getD_none,field_absent ds name member present]
    simp
  | some value =>
    rw [stored,present,Option.getD_some,field_present ds name member value present]
    simp

theorem asString_stored (ds : Fields) (typed : Typed ds) (name : String) (member : name ∈ textNames) :
    ∃ text, asString (stored ds name) = .ok text ∧ ofString text = stored ds name := by
  cases present : ds.lookup name with
  | none => exact ⟨some "",by simp [stored,present,asString],by simp [stored,present,ofString]⟩
  | some value =>
    obtain ⟨text,rfl⟩ := typed name member value present
    exact ⟨text,by simp [stored,present],by simp [stored,present]⟩

theorem videoInfo_decodes (ds : Fields) (typed : Typed ds) (unmentioned : Unmentioned ds) :
    ∃ video, videoInfo ds = .ok video ∧ Decoded ds video := by
  have reads (name : String) (member : name ∈ decodedNames) : field ds name = .ok (stored ds name) :=
    (field_stored ds name member).mpr (unmentioned name member)
  have texts := asString_stored ds typed
  obtain ⟨videoUrl,readVideo,storedVideo⟩ := texts "videoUrl" (by decide)
  obtain ⟨thumbUrl,readThumb,storedThumb⟩ := texts "thumbUrl" (by decide)
  obtain ⟨coverUrl,readCover,storedCover⟩ := texts "coverUrl" (by decide)
  obtain ⟨videoName,readName,storedName⟩ := texts "videoName" (by decide)
  obtain ⟨courseName,readCourse,storedCourse⟩ := texts "CourseName" (by decide)
  refine ⟨⟨videoUrl,thumbUrl,coverUrl,stored ds "aspectRatio",.null,videoName,courseName,
    stored ds "chapterNo"⟩,?_,⟨storedVideo,storedThumb,storedCover,rfl,storedName,storedCourse,rfl⟩⟩
  simp only [videoInfo,reads "videoUrl" (by decide),reads "thumbUrl" (by decide),
    reads "coverUrl" (by decide),reads "aspectRatio" (by decide),reads "videoName" (by decide),
    reads "chapterNo" (by decide),reads "CourseName" (by decide),readVideo,readThumb,readCover,
    readName,readCourse,bind,Except.bind,pure,Except.pure]

theorem videoInfo_unmentioned (ds : Fields) (video : VideoInfo) (decoded : videoInfo ds = .ok video) :
    Unmentioned ds := by
  simp only [videoInfo,bind_ok] at decoded
  obtain ⟨_,first,_,_,_,second,_,_,_,third,_,_,_,fourth,_,fifth,_,_,_,sixth,_,seventh,_⟩ := decoded
  intro name member
  have listed := member
  simp only [decodedNames,textNames,List.cons_append,List.nil_append,List.mem_cons,
    List.not_mem_nil,or_false] at listed
  rcases listed with rfl | rfl | rfl | rfl | rfl | rfl | rfl
  · exact field_ok ds _ member _ first
  · exact field_ok ds _ member _ second
  · exact field_ok ds _ member _ third
  · exact field_ok ds _ member _ fifth
  · exact field_ok ds _ member _ seventh
  · exact field_ok ds _ member _ fourth
  · exact field_ok ds _ member _ sixth

theorem decodes_iff (qs : List Fields) (typed : ∀ ds ∈ qs, Typed ds) :
    Decodes qs ↔ ∀ ds ∈ qs, Unmentioned ds := by
  constructor
  · rintro ⟨videos,decoded,_⟩ ds member
    obtain ⟨video,success⟩ := mapM_mem videoInfo qs videos decoded ds member
    exact videoInfo_unmentioned ds video success
  · intro unmentioned
    induction qs with
    | nil => exact ⟨[],rfl,List.Forall₂.nil⟩
    | cons ds rest ih =>
      obtain ⟨video,success,decoded⟩ := videoInfo_decodes ds (typed ds List.mem_cons_self)
        (unmentioned ds List.mem_cons_self)
      obtain ⟨videos,later,all⟩ := ih (fun other member => typed other (List.mem_cons_of_mem _ member))
        (fun other member => unmentioned other (List.mem_cons_of_mem _ member))
      refine ⟨video::videos,?_,List.Forall₂.cons decoded all⟩
      rw [mapQueryToVideoInfo,mapM_ok] at later ⊢
      exact List.Forall₂.cons success later

instance (ds : Fields) (name : String) : Decidable (Mentions ds name) :=
  inferInstanceAs (Decidable (∃ entry ∈ ds, _ ∨ _))

theorem decodes_iff_example :
    Decodes [[("videoName",.string "Limits"),("CourseName",.string "calculus")],[]] := by
  apply (decodes_iff _ _).mpr
  · simp only [List.forall_mem_cons,Unmentioned]
    decide
  · simp only [List.forall_mem_cons,Typed]
    refine ⟨?_,?_,by simp⟩
    · intro name _ value present
      have stored := Entries.lookup_mem name value _ present
      simp only [List.mem_cons,Prod.mk.injEq,List.not_mem_nil,or_false] at stored
      rcases stored with ⟨_,rfl⟩ | ⟨_,rfl⟩
      · exact ⟨some "Limits",rfl⟩
      · exact ⟨some "calculus",rfl⟩
    · simp

/-- A document without a thumbUrl whose videoName speaks of it stops the whole list. -/
theorem mentioned_field : ¬ Decodes [[("videoName",.string "Setting the thumbUrl")],[]] := by
  rintro ⟨videos,decoded,_⟩
  have thrown : mapQueryToVideoInfo [[("videoName",.string "Setting the thumbUrl")],[]] =
      .error .stateError := rfl
  rw [thrown] at decoded
  contradiction

/-! The round trip through the collection. -/

def saveVideoData (video : VideoInfo) : Fields :=
  [("videoUrl",ofString video.videoUrl),("thumbUrl",ofString video.thumbUrl),
    ("coverUrl",ofString video.coverUrl),("aspectRatio",video.aspectRatio),
    ("uploadedAt",video.uploadedAt),("videoName",ofString video.videoName),
    ("chapterNo",video.chapter),("CourseName",ofString video.courseName)]

def storedVideo (video : VideoInfo) : Fields := toStoreFields (saveVideoData video)

/-- Equality of numbers as the store and Dart have it, an integer and a double included. -/
def isEqualTo (value : Value) (number : Int) : Bool :=
  match value with
  | .number stored => stored == number
  | .double stored => stored.integer == some number
  | _ => false

def selects (courseName : String) (chaptNo : Int) (ds : Fields) : Bool :=
  (match ds.lookup "CourseName" with
    | some (.string stored) => stored == courseName
    | _ => false) &&
  (match ds.lookup "chapterNo" with
    | some stored => isEqualTo stored chaptNo
    | none => false)

def Belongs (courseName : String) (chaptNo : Int) (video : VideoInfo) : Prop :=
  video.courseName = some courseName ∧ isEqualTo video.chapter chaptNo = true

instance (courseName : String) (chaptNo : Int) (video : VideoInfo) :
    Decidable (Belongs courseName chaptNo video) := inferInstanceAs (Decidable (_ ∧ _))

end VisionsAcademy.FirebaseProvider
