import KeyClient.Files.Place
import KeyClient.Proofs.Text.Split
import Mathlib.Logic.Relation

/-!
# Spellings of a path

A directory has many absolute paths.  A slash may be repeated or stand at the end, a segment may
lead nowhere, two may lead in and out again, and no segment leads out of the root directory.
`Place.Respelling` says what one such change of the text is, and `Place.SameDirectory` what any
number of them come to; neither resolves anything.  Resolving tells the directories apart:
`Place.sameDirectory_iff` says that two absolute paths lead to the same place exactly if each is a
spelling of the other.  One spelling has nothing but names in it
(`Place.sameDirectory_resolve`), and paths of names are told apart by their text
(`Place.path_inj`).
-/

namespace KeyClient.Files.Place

/-! ## Names and absolute paths -/

/-- A segment that leads from a directory to something in it. -/
structure IsName (segment : String) : Prop where
  ne_empty : segment ≠ ""
  ne_here : segment ≠ "."
  ne_outward : segment ≠ ".."
  noSlash : '/' ∉ segment.toList

theorem isName_iff {segment : String} :
    IsName segment ↔ segment ≠ "" ∧ segment ≠ "." ∧ segment ≠ ".." ∧ '/' ∉ segment.toList := by
  constructor
  · intro h
    exact ⟨h.ne_empty, h.ne_here, h.ne_outward, h.noSlash⟩
  · rintro ⟨empty, here, outward, slash⟩
    exact ⟨empty, here, outward, slash⟩

instance (segment : String) : Decidable (IsName segment) := decidable_of_iff' _ isName_iff

/-- The path starts at the root directory. -/
def IsAbsolute (path : String) : Prop := path.toList.head? = some '/'

instance (path : String) : Decidable (IsAbsolute path) := inferInstanceAs (Decidable (_ = _))

/-- The absolute path with the segments. -/
def absolute (parts : List String) : String := "/" ++ "/".intercalate parts

theorem toList_absolute (parts : List String) :
    (absolute parts).toList = '/' :: Text.join ['/'] (parts.map String.toList) := by
  rw [absolute, String.toList_append, String.toList_intercalate, Text.join_eq_intercalate]
  rfl

theorem isAbsolute_absolute (parts : List String) : IsAbsolute (absolute parts) := by
  rw [IsAbsolute, toList_absolute, List.head?_cons]

theorem noSlash_of_mem_segments {path segment : String} (h : segment ∈ segments path) :
    '/' ∉ segment.toList := by
  obtain ⟨part, among, rfl⟩ := List.mem_map.1 h
  rw [String.toList_ofList]
  intro slash
  cases Text.not_of_mem_split among slash

theorem segments_eq_singleton {segment : String} (h : '/' ∉ segment.toList) :
    segments segment = [segment] := by
  have clear : ∀ c ∈ segment.toList, (c == '/') = false := by
    intro c inside
    rw [beq_eq_false_iff_ne]
    rintro rfl
    exact h inside
  rw [segments, Text.split_eq_singleton clear, List.map_singleton, String.ofList_toList]

/-- A path that starts with a slash has an empty segment in front. -/
theorem segments_of_toList {path : String} {cs : List Char} (h : path.toList = '/' :: cs) :
    segments path = "" :: (Text.split (· == '/') cs).map String.ofList := by
  rw [segments, h]
  rfl

theorem segments_absolute {parts : List String} (some : parts ≠ []) :
    segments (absolute parts) = "" :: parts.flatMap segments := by
  have apart := segments_of_toList (toList_absolute parts)
  rw [Text.split_join_eq_flatMap '/' (by simpa using some), List.map_flatMap,
    List.flatMap_map] at apart
  exact apart

/-- An absolute path is the one with its segments. -/
theorem exists_eq_absolute {path : String} (h : IsAbsolute path) :
    ∃ parts, (∀ part ∈ parts, '/' ∉ part.toList) ∧ path = absolute parts := by
  obtain ⟨cs, starts⟩ : ∃ cs, path.toList = '/' :: cs := List.head?_eq_some_iff.1 h
  refine ⟨(Text.split (· == '/') cs).map String.ofList, ?_, ?_⟩
  · intro part inside
    have segment : part ∈ segments path := by
      rw [segments_of_toList starts]
      exact List.mem_cons_of_mem _ inside
    exact noSlash_of_mem_segments segment
  · have texts : ((Text.split (· == '/') cs).map String.ofList).map String.toList =
        Text.split (· == '/') cs := by simp
    rw [← String.toList_inj, toList_absolute, starts, texts, Text.join_split]

/-! ## Steps -/

@[simp] theorem step_empty (place : Place) : step place "" = place := rfl

@[simp] theorem step_here (place : Place) : step place "." = place := rfl

@[simp] theorem step_outward (place : Place) : step place ".." = place.tail := rfl

theorem step_of_isName {segment : String} (h : IsName segment) (place : Place) :
    step place segment = segment :: place := by
  simp [step, h.ne_empty, h.ne_here, h.ne_outward]

/-- Only a name gets into a place. -/
theorem step_cases {segment : String} (noSlash : '/' ∉ segment.toList) (place : Place) :
    (segment = "" ∨ segment = ".") ∧ step place segment = place ∨
    segment = ".." ∧ step place segment = place.tail ∨
    IsName segment ∧ step place segment = segment :: place := by
  by_cases stays : segment = "" ∨ segment = "."
  · left
    refine ⟨stays, ?_⟩
    rcases stays with rfl | rfl <;> rfl
  · right
    rw [not_or] at stays
    by_cases out : segment = ".."
    · left
      exact ⟨out, by rw [out, step_outward]⟩
    · right
      have named : IsName segment := ⟨stays.1, stays.2, out, noSlash⟩
      exact ⟨named, step_of_isName named place⟩

theorem isName_of_mem_foldl {parts : List String} (noSlash : ∀ part ∈ parts, '/' ∉ part.toList)
    {place : Place} (names : ∀ name ∈ place, IsName name) :
    ∀ name ∈ parts.foldl step place, IsName name := by
  induction parts generalizing place with
  | nil => exact names
  | cons part parts ih =>
    rw [List.foldl_cons]
    apply ih fun other inside => noSlash other (List.mem_cons_of_mem _ inside)
    intro name inside
    rcases step_cases (noSlash part (by simp)) place with
      ⟨-, same⟩ | ⟨-, out⟩ | ⟨named, inward⟩
    · rw [same] at inside
      exact names name inside
    · rw [out] at inside
      exact names name (List.mem_of_mem_tail inside)
    · rw [inward] at inside
      rcases List.mem_cons.1 inside with rfl | within
      · exact named
      · exact names name within

theorem foldl_step_of_names {names : List String} (h : ∀ name ∈ names, IsName name)
    (place : Place) : names.foldl step place = names.reverse ++ place := by
  induction names generalizing place with
  | nil => rfl
  | cons name names ih =>
    rw [List.foldl_cons, step_of_isName (h name (by simp)),
      ih fun other inside => h other (List.mem_cons_of_mem _ inside), List.reverse_cons,
      List.append_assoc, List.singleton_append]

theorem flatMap_segments {parts : List String} (noSlash : ∀ part ∈ parts, '/' ∉ part.toList) :
    parts.flatMap segments = parts := by
  induction parts with
  | nil => rfl
  | cons part parts ih =>
    rw [List.flatMap_cons, segments_eq_singleton (noSlash part (by simp)),
      ih fun other inside => noSlash other (List.mem_cons_of_mem _ inside), List.singleton_append]

/-! ## Resolving absolute paths -/

theorem resolve_of_isAbsolute {path : String} (h : IsAbsolute path) (base : Place) :
    resolve base path = (segments path).foldl step [] := by
  have starts : path.toList.head? = some '/' := h
  rw [resolve, if_pos starts]

theorem resolve_absolute (base : Place) (parts : List String) :
    resolve base (absolute parts) = (parts.flatMap segments).foldl step [] := by
  rw [resolve_of_isAbsolute (isAbsolute_absolute parts)]
  by_cases none : parts = []
  · rw [none]
    rfl
  · rw [segments_absolute none, List.foldl_cons, step_empty]

theorem resolve_absolute_append (base : Place) (before after : List String) :
    resolve base (absolute (before ++ after)) =
      (after.flatMap segments).foldl step (resolve base (absolute before)) := by
  rw [resolve_absolute, resolve_absolute, List.flatMap_append, List.foldl_append]

theorem resolve_of_noSlash {parts : List String} (noSlash : ∀ part ∈ parts, '/' ∉ part.toList)
    (base : Place) : resolve base (absolute parts) = parts.foldl step [] := by
  rw [resolve_absolute, flatMap_segments noSlash]

/-- A path of names leads to the place with these names. -/
theorem resolve_of_names {names : List String} (h : ∀ name ∈ names, IsName name) (base : Place) :
    resolve base (absolute names) = names.reverse := by
  rw [resolve_of_noSlash fun name inside => (h name inside).noSlash, foldl_step_of_names h,
    List.append_nil]

theorem isName_of_mem_resolve {path : String} (h : IsAbsolute path) (base : Place) :
    ∀ name ∈ resolve base path, IsName name := by
  obtain ⟨parts, noSlash, rfl⟩ := exists_eq_absolute h
  rw [resolve_of_noSlash noSlash]
  exact isName_of_mem_foldl noSlash nofun

/-- An absolute path is seen alike from everywhere. -/
theorem resolve_eq_of_isAbsolute {path : String} (h : IsAbsolute path) (base other : Place) :
    resolve base path = resolve other path := by
  rw [resolve_of_isAbsolute h, resolve_of_isAbsolute h]

/-! ## Spellings -/

/-- One change to the text of an absolute path that leaves the directory the same: a slash that is
repeated or stands at the end, a segment that stays where it is, a name and the way back out of it,
or a way out of the root directory is left out. -/
inductive Respelling : String → String → Prop where
  | slash (before after : List String) :
    Respelling (absolute (before ++ "" :: after)) (absolute (before ++ after))
  | here (before after : List String) :
    Respelling (absolute (before ++ "." :: after)) (absolute (before ++ after))
  | back (before after : List String) {name : String} (named : IsName name) :
    Respelling (absolute (before ++ name :: ".." :: after)) (absolute (before ++ after))
  | top (after : List String) : Respelling (absolute (".." :: after)) (absolute after)

/-- The paths differ by any number of such changes, made or undone. -/
def SameDirectory : String → String → Prop := Relation.EqvGen Respelling

theorem Respelling.resolve_eq {path other : String} (h : Respelling path other) (base : Place) :
    resolve base path = resolve base other := by
  have empty : segments "" = [""] := rfl
  have here : segments "." = ["."] := rfl
  have outward : segments ".." = [".."] := rfl
  cases h with
  | slash before after => simp [resolve_absolute_append, empty]
  | here before after => simp [resolve_absolute_append, here]
  | back before after named =>
    simp [resolve_absolute_append, outward, segments_eq_singleton named.noSlash,
      step_of_isName named]
  | top after => simp [resolve_absolute, outward]

theorem SameDirectory.resolve_eq {path other : String} (h : SameDirectory path other)
    (base : Place) : resolve base path = resolve base other := by
  induction h with
  | rel path other change => exact change.resolve_eq base
  | refl path => rfl
  | symm path other _ ih => exact ih.symm
  | trans path next other _ _ first second => exact first.trans second

/-- What the steps of a path leave of it is another spelling of the path. -/
theorem sameDirectory_foldl {parts : List String} (noSlash : ∀ part ∈ parts, '/' ∉ part.toList)
    {place : Place} (names : ∀ name ∈ place, IsName name) :
    SameDirectory (absolute (place.reverse ++ parts))
      (absolute (parts.foldl step place).reverse) := by
  -- what is in front of the segments still to come is a path of names, so a way out meets one of
  -- them or the root directory
  induction parts generalizing place with
  | nil =>
    rw [List.append_nil]
    exact .refl _
  | cons part parts ih =>
    have rest : ∀ other ∈ parts, '/' ∉ other.toList := fun other inside =>
      noSlash other (List.mem_cons_of_mem _ inside)
    rw [List.foldl_cons]
    rcases step_cases (noSlash part (by simp)) place with
      ⟨rfl | rfl, same⟩ | ⟨rfl, out⟩ | ⟨named, inward⟩
    · rw [same]
      exact .trans _ _ _ (.rel _ _ (.slash _ _)) (ih rest names)
    · rw [same]
      exact .trans _ _ _ (.rel _ _ (.here _ _)) (ih rest names)
    · rw [out]
      cases place with
      | nil => exact .trans _ _ _ (.rel _ _ (.top _)) (ih rest names)
      | cons name outer =>
        have back := Respelling.back outer.reverse parts (names name (by simp))
        have onwards := ih rest fun other inside => names other (List.mem_cons_of_mem _ inside)
        rw [List.reverse_cons, List.append_assoc, List.singleton_append]
        exact .trans _ _ _ (.rel _ _ back) onwards
    · have inside : (part :: place).reverse ++ parts = place.reverse ++ part :: parts := by simp
      rw [inward, ← inside]
      exact ih rest (List.forall_mem_cons.2 ⟨named, names⟩)

/-- An absolute path leads where the names of the place do to which it resolves. -/
theorem sameDirectory_resolve {path : String} (h : IsAbsolute path) (base : Place) :
    SameDirectory path (absolute (resolve base path).reverse) := by
  obtain ⟨parts, noSlash, rfl⟩ := exists_eq_absolute h
  rw [resolve_of_noSlash noSlash]
  have none : ∀ name ∈ ([] : Place), IsName name := by simp
  exact sameDirectory_foldl noSlash none

/-- **Resolving tells directories apart.**  Two absolute paths are spellings of one directory
exactly if they resolve to the same place, seen from anywhere. -/
theorem sameDirectory_iff {path other : String} (h : IsAbsolute path) (h' : IsAbsolute other)
    (base base' : Place) : SameDirectory path other ↔ resolve base path = resolve base' other := by
  rw [resolve_eq_of_isAbsolute h' base' base]
  constructor
  · intro same
    exact same.resolve_eq base
  · intro same
    have there := sameDirectory_resolve h base
    rw [same] at there
    exact .trans _ _ _ there (.symm _ _ (sameDirectory_resolve h' base))

/-! ## Places as paths -/

theorem join_eq_absolute {names : List String} (some : names ≠ []) :
    String.join (names.map fun name => "/" ++ name) = absolute names := by
  induction names with
  | nil => exact absurd rfl some
  | cons name names ih =>
    cases names with
    | nil => simp [absolute]
    | cons next names =>
      rw [List.map_cons, String.join_cons, ih (List.cons_ne_nil _ _), absolute, absolute,
        String.intercalate_cons_cons]
      simp [String.append_assoc]

theorem path_eq_absolute (place : Place) : place.path = absolute place.reverse := by
  cases place with
  | nil => rfl
  | cons name outer =>
    apply join_eq_absolute
    simp

/-- Places with names are told apart by their paths. -/
theorem path_inj {place other : Place} (names : ∀ name ∈ place, IsName name)
    (names' : ∀ name ∈ other, IsName name) : place.path = other.path ↔ place = other := by
  constructor
  · intro same
    have resolved : ∀ p : Place, (∀ name ∈ p, IsName name) → resolve [] p.path = p := by
      intro p names
      rw [path_eq_absolute, resolve_of_names (by simpa using names), List.reverse_reverse]
    rw [← resolved place names, same, resolved other names']
  · intro same
    rw [same]

/-- The path is absolute, and all segments after the slash in front are names. -/
structure IsNormal (path : String) : Prop where
  isAbsolute : IsAbsolute path
  areNames : ∀ segment ∈ (segments path).tail, IsName segment

theorem isNormal_path {place : Place} (some : place ≠ []) (names : ∀ name ∈ place, IsName name) :
    IsNormal place.path := by
  rw [path_eq_absolute]
  refine ⟨isAbsolute_absolute _, ?_⟩
  have noSlash : ∀ part ∈ place.reverse, '/' ∉ part.toList := by
    intro part inside
    exact (names part (List.mem_reverse.1 inside)).noSlash
  rw [segments_absolute (by simpa using some), flatMap_segments noSlash, List.tail_cons]
  simpa using names

end KeyClient.Files.Place
