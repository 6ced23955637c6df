import KeyClient.Proofs.Text.Split
import KeyClient.Proofs.Url.Percent
import KeyClient.Proofs.Url.Walk
import KeyClient.Url.Basic

/-!
# The marks of an address

A question mark opens the query of an address and a number sign its fragment.  Neither stands in
what comes before the query (`isClear_of_parse?`), so the query of a written address is found by
looking for the marks (`queryOf_text`).
-/

namespace KeyClient.Url

/-- The character opens the query or the fragment. -/
def isMark (c : Char) : Bool := c == '?' || c == '#'

/-- A text without marks. -/
def Unmarked (cs : List Char) : Prop := ∀ c ∈ cs, isMark c = false

/-- A test that both marks pass tells all other characters from them. -/
theorem isMark_of_eq_false {p : Char → Bool} (query : p '?' = true) (fragment : p '#' = true)
    {c : Char} (h : p c = false) : isMark c = false := by
  rw [isMark, Bool.or_eq_false_iff, beq_eq_false_iff_ne, beq_eq_false_iff_ne]
  constructor
  · rintro rfl
    rw [query] at h
    cases h
  · rintro rfl
    rw [fragment] at h
    cases h

/-! ## Texts without marks -/

theorem unmarked_nil : Unmarked [] := by
  intro c h
  cases h

theorem unmarked_of_all {cs : List Char} (h : cs.all (fun c => !isMark c) = true) :
    Unmarked cs := fun c member => by
  have unmarked := List.all_eq_true.1 h c member
  rwa [Bool.not_eq_true'] at unmarked

theorem unmarked_cons {c : Char} {cs : List Char} :
    Unmarked (c :: cs) ↔ isMark c = false ∧ Unmarked cs := List.forall_mem_cons

theorem unmarked_append {cs ds : List Char} :
    Unmarked (cs ++ ds) ↔ Unmarked cs ∧ Unmarked ds := List.forall_mem_append

theorem isMark_digit : ∀ n < 16, isMark (Percent.digit n) = false := by decide

theorem unmarked_encode {set : Percent.EncodeSet} {cs : List Char}
    (h : ∀ c ∈ cs, set c = false → isMark c = false) : Unmarked (Percent.encode set cs) :=
  Percent.forall_mem_encode (p := fun c => isMark c = false) rfl isMark_digit h

theorem unmarked_numeral (base n : Nat) : Unmarked (numeral base n) := by
  have digit : ∀ d : Nat, isMark d.digitChar = false := fun d => by
    rw [isMark, Bool.or_eq_false_iff]
    exact ⟨by simp, by simp⟩
  have core : ∀ fuel n digits, Unmarked digits →
      Unmarked (Nat.toDigitsCore base fuel n digits) := by
    intro fuel
    induction fuel with
    | zero => exact fun _ _ h => h
    | succ fuel ih =>
      intro n digits h
      rw [Nat.toDigitsCore]
      split
      · exact unmarked_cons.2 ⟨digit _, h⟩
      · exact ih _ _ (unmarked_cons.2 ⟨digit _, h⟩)
  exact core _ _ _ unmarked_nil

theorem unmarked_join {c : Char} {parts : List (List Char)} (separator : isMark c = false)
    (h : ∀ part ∈ parts, Unmarked part) : Unmarked (Text.join [c] parts) := by
  intro d member
  rcases Text.mem_join member with rfl | ⟨part, inside, member⟩
  · exact separator
  · exact h part inside d member

/-! ## Hosts -/

namespace Host

theorem unmarked_text_ipv4 (address : Nat) : Unmarked (Ipv4.text address) := by
  refine unmarked_join (by decide) fun part member => ?_
  obtain ⟨place, -, rfl⟩ := List.mem_map.1 member
  exact unmarked_numeral _ _

theorem unmarked_groupsText (groups : List Nat) : Unmarked (Ipv6.groupsText groups) := by
  refine unmarked_join (by decide) fun part member => ?_
  obtain ⟨group, -, rfl⟩ := List.mem_map.1 member
  exact unmarked_numeral _ _

theorem unmarked_text_ipv6 (groups : List Nat) : Unmarked (Ipv6.text groups) := by
  unfold Ipv6.text
  split
  split
  · exact unmarked_groupsText groups
  · rw [unmarked_append, unmarked_cons, unmarked_cons]
    exact ⟨unmarked_groupsText _, by decide, by decide, unmarked_groupsText _⟩

theorem unmarked_of_ofDomain? {name : List Char} {host : Host} (h : ofDomain? name = some host) :
    Unmarked host.text := by
  obtain ⟨ascii, -, found⟩ := Option.bind_eq_some_iff.1 h
  split at found
  · cases found
  · next legal =>
    split at found
    · obtain ⟨address, -, rfl⟩ := Option.map_eq_some_iff.1 found
      exact unmarked_text_ipv4 address
    · cases found
      intro c member
      rw [Bool.or_eq_true, not_or, Bool.not_eq_true, Bool.not_eq_true] at legal
      exact isMark_of_eq_false (by decide) (by decide)
        (Bool.eq_false_iff.2 (List.any_eq_false.1 legal.2 c member))

/-- The host of an address is written without marks. -/
theorem unmarked_of_parse? {special : Bool} {cs : List Char} {host : Host}
    (h : parse? special cs = some host) : Unmarked host.text := by
  unfold parse? at h
  split at h
  · split at h
    · obtain ⟨groups, -, rfl⟩ := Option.map_eq_some_iff.1 h
      rw [text, unmarked_cons, unmarked_append, unmarked_cons]
      exact ⟨by decide, unmarked_text_ipv6 groups, by decide, unmarked_nil⟩
    · cases h
  · split at h
    · exact unmarked_of_ofDomain? h
    · split at h
      · cases h
      · next legal =>
        cases h
        refine unmarked_encode fun c member _ => ?_
        rw [Bool.not_eq_true, List.any_eq_false] at legal
        exact isMark_of_eq_false (by decide) (by decide) (Bool.eq_false_iff.2 (legal c member))

end Host

/-! ## Paths -/

namespace Path

theorem isMark_of_not_path {c : Char} (h : Percent.path c = false) : isMark c = false :=
  isMark_of_eq_false (by decide) (by decide) h

theorem unmarked_keep (style : Style) (first : Bool) (segment : List Char) :
    Unmarked (keep style first segment) := by
  unfold keep
  split
  · next drive =>
    rw [Bool.and_eq_true] at drive
    have shape := drive.2
    unfold isDrive at shape
    split at shape
    · next c mark =>
      rw [Bool.and_eq_true] at shape
      have letter : isMark c = false :=
        isMark_of_eq_false (p := fun c => !c.isAlpha) (by decide) (by decide) (by simp [shape.1])
      exact unmarked_cons.2 ⟨letter, unmarked_cons.2 ⟨by decide, unmarked_nil⟩⟩
    · cases shape
  · exact unmarked_encode fun c _ h => isMark_of_not_path h

theorem unmarked_shorten {style : Style} {reversed : List (List Char)}
    (h : ∀ name ∈ reversed, Unmarked name) : ∀ name ∈ shorten style reversed, Unmarked name := by
  unfold shorten
  split
  · split
    · exact h
    · simp
  · exact fun name member => h name (List.mem_of_mem_tail member)

theorem unmarked_enter {style : Style} {reversed : List (List Char)}
    (h : ∀ name ∈ reversed, Unmarked name) (segment : List Char) :
    ∀ name ∈ enter style reversed segment, Unmarked name := by
  unfold enter
  split
  · exact unmarked_shorten h
  · split
    · exact h
    · exact List.forall_mem_cons.2 ⟨unmarked_keep _ _ _, h⟩

theorem unmarked_close {style : Style} {reversed : List (List Char)}
    (h : ∀ name ∈ reversed, Unmarked name) (last : List Char) :
    ∀ name ∈ close style reversed last, Unmarked name := by
  unfold close
  split
  · unfold above
    split
    · simp
    · exact List.forall_mem_cons.2 ⟨unmarked_nil, unmarked_shorten h⟩
  · split
    · exact List.forall_mem_cons.2 ⟨unmarked_nil, h⟩
    · exact List.forall_mem_cons.2 ⟨unmarked_keep _ _ _, h⟩

theorem unmarked_walk (style : Style) (segments : List (List Char)) :
    ∀ name ∈ walk style segments, Unmarked name := by
  -- the walk may start with any names that have no marks
  have onward : ∀ reversed : List (List Char), (∀ name ∈ reversed, Unmarked name) →
      ∀ name ∈ segments.foldl (enter style) reversed, Unmarked name := by
    induction segments with
    | nil => exact fun _ h => h
    | cons segment segments ih => exact fun _ h => ih _ (unmarked_enter h segment)
  exact onward [] (by simp)

theorem unmarked_of_isVerbatim {style : Style} {names : List (List Char)}
    (h : isVerbatim style names = true) : ∀ name ∈ names, Unmarked name := by
  unfold isVerbatim at h
  split at h
  · cases h
  · next first rest =>
    simp only [Bool.and_eq_true, List.all_eq_true] at h
    intro name member c inside
    exact isMark_of_not_path (path_of_isLiteral (h.1.2 name member c inside))

/-- The path of an address is written without marks. -/
theorem unmarked_text_ofText (style : Style) (cs : List Char) :
    Unmarked (ofText style cs).text := by
  have names : ∀ name ∈ (if isVerbatim style (Text.split style.isSlash cs)
      then Text.split style.isSlash cs
      else resolve style [] (Text.split style.isSlash cs)), Unmarked name := by
    split
    · next verbatim => exact unmarked_of_isVerbatim verbatim
    · obtain ⟨segments, last, parts, -⟩ := Text.split_eq_concat style.isSlash cs
      rw [parts, resolve_concat]
      intro name member
      exact unmarked_close (unmarked_walk style segments) last name (List.mem_reverse.1 member)
  intro c member
  obtain ⟨name, inside, member⟩ := List.mem_flatMap.1 member
  rcases List.mem_cons.1 member with rfl | member
  · decide
  · exact names name inside c member

end Path

/-! ## Addresses -/

theorem toLower_cases (c : Char) : c.toLower = c ∨ 97 ≤ c.toLower.toNat := by
  unfold Char.toLower
  split
  · next upper =>
    right
    have least : 65 ≤ c.val.toNat := upper.1
    have greatest : c.val.toNat ≤ 90 := upper.2
    show 97 ≤ (c.val + ('a'.val - 'A'.val)).toNat
    rw [UInt32.toNat_add]
    have shift : ('a'.val - 'A'.val).toNat = 32 := by decide
    omega
  · exact .inl rfl

theorem isMark_toLower {c : Char} (h : isMark c = false) : isMark c.toLower = false := by
  rcases toLower_cases c with same | great
  · rw [same, h]
  · rw [isMark, Bool.or_eq_false_iff, beq_eq_false_iff_ne, beq_eq_false_iff_ne]
    constructor <;> intro same <;> rw [same] at great <;> exact absurd great (by decide)

/-- What comes before the query of an address has no marks in it. -/
structure IsClear (url : Url) : Prop where
  scheme : Unmarked url.scheme
  username : Unmarked url.username
  password : Unmarked url.password
  host : ∀ host, url.host = some host → Unmarked host.text
  path : Unmarked url.path.text

theorem unmarked_of_cutScheme? {cs scheme rest : List Char}
    (h : cutScheme? cs = some (scheme, rest)) :
    Unmarked scheme ∧ (Unmarked cs → Unmarked rest) := by
  unfold cutScheme? at h
  split at h
  · next c name rest' cuts =>
    split at h
    · next shape =>
      cases h
      rw [Bool.and_eq_true] at shape
      have plain : ∀ d ∈ c :: name, isMark d = false := by
        refine List.forall_mem_cons.2 ⟨?_, fun d member => ?_⟩
        · exact isMark_of_eq_false (p := fun c => !c.isAlpha) (by decide) (by decide)
            (by simp [shape.1])
        · exact isMark_of_eq_false (p := fun c => !isSchemeChar c) (by decide) (by decide)
            (by simp [List.all_eq_true.1 shape.2 d member])
      refine ⟨fun d member => ?_, fun clear d member => ?_⟩
      · obtain ⟨e, inside, rfl⟩ := List.mem_map.1 member
        exact isMark_toLower (plain e inside)
      · exact clear d (Text.mem_of_mem_cut_snd (by rw [cuts]) member)
    · cases h
  · cases h

theorem isMark_of_not_userinfo {c : Char} (h : Percent.userinfo c = false) : isMark c = false :=
  isMark_of_eq_false (by decide) (by decide) h

theorem unmarked_of_authority? {scheme cs : List Char} {authority : Authority}
    (h : authority? scheme cs = some authority) :
    Unmarked authority.username ∧ Unmarked authority.password ∧ Unmarked authority.host.text := by
  unfold authority? at h
  simp only at h
  split at h
  · cases h
  · obtain ⟨host, parsed, h⟩ := Option.bind_eq_some_iff.1 h
    obtain ⟨port, -, h⟩ := Option.bind_eq_some_iff.1 h
    cases h
    exact ⟨unmarked_encode fun _ _ => isMark_of_not_userinfo,
      unmarked_encode fun _ _ => isMark_of_not_userinfo, Host.unmarked_of_parse? parsed⟩

theorem isClear_of_ofServer? {scheme cs : List Char} {url : Url} (clear : Unmarked scheme)
    (h : ofServer? scheme cs = some url) : IsClear url := by
  unfold ofServer? at h
  obtain ⟨authority, parsed, h⟩ := Option.bind_eq_some_iff.1 h
  cases h
  obtain ⟨username, password, host⟩ := unmarked_of_authority? parsed
  refine ⟨clear, username, password, fun own same => ?_, ?_⟩
  · rw [← Option.some.inj same]
    exact host
  · show Unmarked (if _ then _ else _ : Path).text
    split
    · exact unmarked_nil
    · exact Path.unmarked_text_ofText _ _

theorem isClear_ofFile {host : Host} (clear : Unmarked host.text) (path : List Char) :
    IsClear (ofFile host path) := by
  have scheme : Unmarked "file".toList := unmarked_of_all (by decide)
  refine ⟨scheme, unmarked_nil, unmarked_nil, fun own same => ?_, Path.unmarked_text_ofText _ _⟩
  rw [← Option.some.inj same]
  exact clear

theorem unmarked_of_fileHost? {cs : List Char} {host : Host} (h : fileHost? cs = some host) :
    Unmarked host.text := by
  unfold fileHost? at h
  split at h
  · cases h
    exact unmarked_nil
  · obtain ⟨own, parsed, h⟩ := Option.map_eq_some_iff.1 h
    subst h
    split
    · exact unmarked_nil
    · exact Host.unmarked_of_parse? parsed

/-- The host of a file is the machine itself or was named. -/
theorem ofFile?_cases {cs : List Char} {url : Url} (h : ofFile? cs = some url) :
    ∃ host path, url = ofFile host path ∧
      (host = .plain [] ∨ ∃ name, fileHost? name = some host) := by
  have machine : ∀ path, some (ofFile (.plain []) path) = some url →
      ∃ host path, url = ofFile host path ∧
        (host = .plain [] ∨ ∃ name, fileHost? name = some host) := by
    intro path same
    exact ⟨_, _, (Option.some.inj same).symm, .inl rfl⟩
  unfold ofFile? at h
  split at h
  · split at h
    · split at h
      · split at h
        · simp only at h
          split at h
          · exact machine _ h
          · obtain ⟨host, named, rfl⟩ := Option.map_eq_some_iff.1 h
            exact ⟨host, _, rfl, .inr ⟨_, named⟩⟩
        · exact machine _ h
      · exact machine _ h
    · exact machine _ h
  · exact machine _ h

theorem isClear_of_ofFile? {cs : List Char} {url : Url} (h : ofFile? cs = some url) :
    IsClear url := by
  obtain ⟨host, path, rfl, rfl | ⟨name, named⟩⟩ := ofFile?_cases h
  · have machine : Unmarked (Host.plain []).text := unmarked_nil
    exact isClear_ofFile machine path
  · exact isClear_ofFile (unmarked_of_fileHost? named) path

theorem isClear_of_ofOther? {scheme cs : List Char} {url : Url} (clear : Unmarked scheme)
    (unmarked : Unmarked cs) (h : ofOther? scheme cs = some url) : IsClear url := by
  unfold ofOther? at h
  split at h
  · exact isClear_of_ofServer? clear h
  · cases h
    exact ⟨clear, unmarked_nil, unmarked_nil, by simp, Path.unmarked_text_ofText _ _⟩
  · cases h
    exact ⟨clear, unmarked_nil, unmarked_nil, by simp,
      unmarked_encode fun c member _ => unmarked c member⟩

theorem isClear_of_ofHierarchy? {cs : List Char} {url : Url} (unmarked : Unmarked cs)
    (h : ofHierarchy? cs = some url) : IsClear url := by
  unfold ofHierarchy? at h
  obtain ⟨⟨scheme, rest⟩, cuts, h⟩ := Option.bind_eq_some_iff.1 h
  obtain ⟨clear, onward⟩ := unmarked_of_cutScheme? cuts
  simp only at h
  split at h
  · exact isClear_of_ofFile? h
  · split at h
    · exact isClear_of_ofServer? clear h
    · exact isClear_of_ofOther? clear (onward unmarked) h

/-- What comes before the query of an address that was read has no marks in it. -/
theorem isClear_of_parse? {cs : List Char} {url : Url} (h : parse? cs = some url) :
    IsClear url := by
  unfold parse? at h
  simp only at h
  obtain ⟨read, parsed, h⟩ := Option.bind_eq_some_iff.1 h
  cases h
  -- the fragment is cut off before the query, so neither mark is left
  have unmarked : Unmarked (Text.cut (· == '?') (Text.cut (· == '#') (clean cs)).1).1 := by
    intro c member
    have noQuery : (c == '?') = false := Text.not_of_mem_cut_fst (p := (· == '?')) member
    have noFragment : (c == '#') = false :=
      Text.not_of_mem_cut_fst (p := (· == '#')) (Text.mem_of_mem_cut_fst member)
    rw [isMark, noQuery, noFragment]
    rfl
  obtain ⟨scheme, username, password, host, path⟩ := isClear_of_ofHierarchy? unmarked parsed
  exact ⟨scheme, username, password, host, path⟩

/-! ## The query of a written address -/

/-- The query of a written address: what stands between the first question mark and the fragment. -/
def queryOf (text : List Char) : Option (List Char) :=
  (Text.cut (· == '?') (Text.cut (· == '#') text).1).2

theorem IsClear.unmarked_serverText {url : Url} (h : IsClear url) : Unmarked url.serverText := by
  unfold serverText
  split
  · next host named =>
    have user : Unmarked url.userText := by
      unfold userText
      split
      · exact unmarked_nil
      · refine unmarked_append.2 ⟨unmarked_append.2 ⟨h.username, ?_⟩,
          unmarked_cons.2 ⟨by decide, unmarked_nil⟩⟩
        split
        · exact unmarked_nil
        · exact unmarked_cons.2 ⟨by decide, h.password⟩
    have port : Unmarked ((url.port.map fun n => ':' :: numeral 10 n).getD []) := by
      cases url.port with
      | none => exact unmarked_nil
      | some n => exact unmarked_cons.2 ⟨by decide, unmarked_numeral 10 n⟩
    exact unmarked_cons.2 ⟨by decide, unmarked_cons.2 ⟨by decide,
      unmarked_append.2 ⟨unmarked_append.2 ⟨user, h.host host named⟩, port⟩⟩⟩
  · exact unmarked_cons.2 ⟨by decide, unmarked_cons.2 ⟨by decide, unmarked_nil⟩⟩
  · exact unmarked_nil

/-- The query of an address is found again when the address is written. -/
theorem queryOf_text {url : Url} (h : IsClear url)
    (plain : ∀ query, url.query = some query → '#' ∉ query) : queryOf url.text = url.query := by
  -- only the query and the fragment bring their own marks
  have head : Unmarked (url.scheme ++ ':' :: (url.serverText ++ url.path.text)) :=
    unmarked_append.2 ⟨h.scheme, unmarked_cons.2 ⟨by decide,
      unmarked_append.2 ⟨h.unmarked_serverText, h.path⟩⟩⟩
  generalize before : url.scheme ++ ':' :: (url.serverText ++ url.path.text) = start at head
  have written : url.text = start ++ ((url.query.map ('?' :: ·)).getD []) ++
      ((url.fragment.map ('#' :: ·)).getD []) := by
    rw [text, ← before]
    simp only [List.append_assoc, List.cons_append]
  have noQuery : ∀ c ∈ start, (c == '?') = false := fun c member =>
    (Bool.or_eq_false_iff.1 (head c member)).1
  have noFragment : ∀ c ∈ start ++ ((url.query.map ('?' :: ·)).getD []), (c == '#') = false := by
    intro c member
    rcases List.mem_append.1 member with inside | inside
    · exact (Bool.or_eq_false_iff.1 (head c inside)).2
    · cases own : url.query with
      | none => simp [own] at inside
      | some query =>
        rw [own, Option.map_some, Option.getD_some] at inside
        rw [beq_eq_false_iff_ne]
        rintro rfl
        rcases List.mem_cons.1 inside with same | inside
        · exact absurd same (by decide)
        · exact plain query own inside
  have cutFragment : (Text.cut (· == '#') url.text).1 =
      start ++ ((url.query.map ('?' :: ·)).getD []) := by
    rw [written]
    cases url.fragment with
    | none =>
      rw [Option.map_none, Option.getD_none, List.append_nil, Text.cut_eq_self noFragment]
    | some fragment =>
      rw [Option.map_some, Option.getD_some, Text.cut_append_cons noFragment (by decide)]
  rw [queryOf, cutFragment]
  cases url.query with
  | none => rw [Option.map_none, Option.getD_none, List.append_nil, Text.cut_eq_self noQuery]
  | some query => rw [Option.map_some, Option.getD_some, Text.cut_append_cons noQuery (by decide)]

end KeyClient.Url
