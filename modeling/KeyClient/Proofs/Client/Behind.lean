import KeyClient.Proofs.Url.Append
import KeyClient.Proofs.Url.Names

/-!
# A path behind a server's address

The address of a request is read from the address of the server with a path put behind it as text.
What becomes of that text depends on how the server's address ends: a path behind a mark does not
count (`map_front_of_marked`), a segment behind an address without marks and without a blank at its
end is put behind the start of its path (`exists_start`), and a blank at the end is read as a part
of the path or of the server (`path_ne_of_blank`).
-/

namespace KeyClient.Url

open Client
open KeyClient.Url.Path

/-! ## The server's address without its slashes -/

section

variable {cs : List Char} {base : Url}

theorem colon_mem_dropSlashes (parsed : parse? cs = some base) (web : IsWeb base.scheme) :
    ':' ∈ dropSlashes cs := by
  obtain ⟨core, -, rest, cuts, -⟩ := opens_of_parse? parsed web
  have unmarked : ':' ∈ clean cs := (List.takeWhile_prefix _).subset (mem_of_cutScheme? cuts)
  have opens : ':' ∈ opened cs := by
    obtain ⟨blanks, parts, -⟩ := opened_eq_clean_append cs
    rw [parts]
    exact List.mem_append_left _ unmarked
  have whole : ':' ∈ cs := (List.dropWhile_sublist _).mem (List.mem_filter.1 opens).1
  obtain ⟨count, parts⟩ := exists_eq_dropSlashes_append cs
  rw [parts, List.mem_append] at whole
  rcases whole with inside | slash
  · exact inside
  · exact absurd (List.eq_of_mem_replicate slash) (by decide)

/-- The path put behind the server's address stays as it is. -/
theorem clean_dropSlashes_append (colon : ':' ∈ dropSlashes cs) {path : List Char}
    (some : path ≠ []) (unblank : ∀ c ∈ path, isEdge c = false) :
    clean (dropSlashes cs ++ path) = opened (dropSlashes cs) ++ path :=
  clean_append colon (by decide) some unblank

theorem opened_eq_opened_dropSlashes (colon : ':' ∈ dropSlashes cs) :
    ∃ count, opened cs = opened (dropSlashes cs) ++ List.replicate count '/' := by
  obtain ⟨count, parts⟩ := exists_eq_dropSlashes_append cs
  refine ⟨count, ?_⟩
  conv_lhs => rw [parts]
  rw [opened_append colon (by decide), List.filter_replicate, if_pos (by decide)]

/-! ## Servers with a query or a fragment -/

theorem unmarked_replicate (count : Nat) : Unmarked (List.replicate count '/') := by
  intro c member
  rw [List.eq_of_mem_replicate member]
  decide

/-- A path behind a mark does not count. -/
theorem map_front_of_marked (marked : ¬ Unmarked cs) (colon : ':' ∈ dropSlashes cs)
    {path : List Char} (some : path ≠ []) (unblank : ∀ c ∈ path, isEdge c = false) :
    (parse? (dropSlashes cs ++ path)).map front = (parse? cs).map front := by
  have kept : ¬ Unmarked (opened (dropSlashes cs)) := by
    rw [unmarked_opened]
    intro unmarked
    obtain ⟨count, parts⟩ := exists_eq_dropSlashes_append cs
    refine marked ?_
    rw [parts]
    exact unmarked_append.2 ⟨unmarked, unmarked_replicate count⟩
  obtain ⟨count, parts⟩ := opened_eq_opened_dropSlashes colon
  rw [map_front_parse?, map_front_parse?, clean_dropSlashes_append colon some unblank,
    unmarkedPart_append kept, unmarkedPart_clean marked, parts, unmarkedPart_append kept]

theorem ne_dropSlashes_append_key (cs : List Char) :
    cs ≠ dropSlashes cs ++ KeyRequest.path.toList := by
  obtain ⟨count, parts⟩ := exists_eq_dropSlashes_append cs
  intro same
  have key : List.replicate count '/' = KeyRequest.path.toList :=
    List.append_cancel_left (parts.symm.trans same)
  have letter : 'k' ∈ List.replicate count '/' := by
    rw [key]
    decide
  exact absurd (List.eq_of_mem_replicate letter) (by decide)

end

/-! ## Segments behind a server -/

/-- The segments of an address are the same whatever is put behind its last slash. -/
theorem exists_segments (core : List Char) : ∃ server segments,
    (∀ more, ∃ rest, Text.cut Style.server.isSlash (core ++ '/' :: more) = (server, some rest) ∧
      Text.split Style.server.isSlash rest = segments ++ Text.split Style.server.isSlash more) ∧
    ∀ count, ∃ extra,
      (Text.cut Style.server.isSlash (core ++ List.replicate count '/')).1 = server ∧
      Text.split Style.server.isSlash
          ((Text.cut Style.server.isSlash (core ++ List.replicate count '/')).2.getD []) =
        segments ++ List.replicate extra [] := by
  have slash : Style.server.isSlash '/' = true := by decide
  have slashes : ∀ count, Text.split Style.server.isSlash (List.replicate count '/') =
      List.replicate (count + 1) [] := by
    intro count
    rw [← List.nil_append (List.replicate count '/'), Text.split_append_replicate slash,
      List.replicate_succ]
    rfl
  rcases Text.cut_cases Style.server.isSlash core with ⟨none, -⟩ | ⟨server, c, tail, rfl, isSlash,
    none, -⟩
  · refine ⟨core, [], fun more => ⟨more, Text.cut_append_cons none slash more, rfl⟩, fun count => ?_⟩
    cases count with
    | zero =>
      refine ⟨1, ?_⟩
      rw [List.replicate_zero, List.append_nil, Text.cut_eq_self none]
      exact ⟨rfl, rfl⟩
    | succ count =>
      refine ⟨count + 1, ?_⟩
      rw [List.replicate_succ, Text.cut_append_cons none slash]
      exact ⟨rfl, slashes count⟩
  · refine ⟨server, Text.split Style.server.isSlash tail, fun more => ⟨tail ++ '/' :: more, ?_, ?_⟩,
      fun count => ⟨count, ?_⟩⟩
    · rw [List.append_assoc, List.cons_append, Text.cut_append_cons none isSlash]
    · exact Text.split_append_separator slash tail more
    · rw [List.append_assoc, List.cons_append, Text.cut_append_cons none isSlash]
      exact ⟨rfl, Text.split_append_replicate slash tail count⟩

/-! ## A segment behind a server -/

theorem text_ofText_server (cs : List Char) :
    (ofText .server cs).text = spell (namesOf (Text.split Style.server.isSlash cs)) := rfl

theorem Path.IsPlain.unmarked {segment : List Char} (h : IsPlain segment) :
    Unmarked ('/' :: segment) :=
  unmarked_cons.2 ⟨by decide, fun c member => isMark_of_not_path (h.not_path c member)⟩

theorem Path.IsPlain.unblank {segment : List Char} (h : IsPlain segment) :
    ∀ c ∈ '/' :: segment, isEdge c = false := by
  refine List.forall_mem_cons.2 ⟨by decide, fun c member => ?_⟩
  rw [Bool.eq_false_iff]
  intro edge
  have encoded := path_of_isEdge edge
  rw [h.not_path c member] at encoded
  cases encoded

/-- What an address of the web is made of, if it has neither marks nor a blank at its end: a plain
segment that is put behind its last slash is put behind the start of its path. -/
theorem exists_start {cs : List Char} {base : Url} (parsed : parse? cs = some base)
    (web : IsWeb base.scheme) (unmarked : Unmarked cs) (plain : EndsPlain cs) :
    ∃ start extra, base.path.text = start ++ List.replicate extra '/' ∧
      ∀ segment, IsPlain segment → Text.split Style.server.isSlash segment = [segment] →
        ∃ url, parse? (dropSlashes cs ++ '/' :: segment) = some url ∧ url.scheme = base.scheme ∧
          url.host = base.host ∧ url.port = base.port ∧ url.path.text = start ++ '/' :: segment := by
  have colon := colon_mem_dropSlashes parsed web
  obtain ⟨count, parts⟩ := opened_eq_opened_dropSlashes colon
  obtain ⟨core, opens⟩ := opens_of_parse? parsed web
  have front := front_of_parse? parsed
  rw [unmarkedPart_eq_self (unmarked_clean.2 unmarked), clean_eq_opened plain, parts] at opens front
  -- the server's address and the one with the segment have the same core up to the last slash
  obtain ⟨core, rfl, own⟩ := opens.of_append_replicate
  obtain ⟨server, segments, behind, before⟩ := exists_segments core
  obtain ⟨extra, sameServer, names⟩ := before count
  rw [opens.ofHierarchy?_eq web, map_front_ofServer? web, sameServer] at front
  obtain ⟨authority, named, front⟩ := Option.map_eq_some_iff.1 front
  have path : base.path.text = spell (namesOf (segments ++ List.replicate extra [])) := by
    rw [← names, ← text_ofText_server]
    exact congrArg (fun front => front.path.text) front.symm
  have some : segments ++ List.replicate extra [] ≠ [] := by
    rw [← names]
    exact Text.split_ne_nil _ _
  -- slashes add empty names to the path, so its start is what the segments leave
  obtain ⟨more, spelled⟩ := spell_namesOf_append_replicate some
  refine ⟨spell (leadingNames segments), more, path.trans spelled, fun segment single whole => ?_⟩
  obtain ⟨rest, cuts, parted⟩ := behind segment
  have clear : Unmarked (opened (dropSlashes cs) ++ '/' :: segment) := by
    have all : Unmarked (opened cs) := unmarked_opened.2 unmarked
    rw [parts, unmarked_append] at all
    exact unmarked_append.2 ⟨all.1, single.unmarked⟩
  have read : (parse? (dropSlashes cs ++ '/' :: segment)).map Url.front =
      Option.some ⟨base.scheme, Option.some authority.host, authority.port, ofText .server rest⟩ := by
    rw [map_front_parse?, clean_dropSlashes_append colon (List.cons_ne_nil _ _) single.unblank,
      unmarkedPart_eq_self clear, (own.append _).ofHierarchy?_eq web, map_front_ofServer? web, cuts,
      named]
    rfl
  obtain ⟨url, found, same⟩ := Option.map_eq_some_iff.1 read
  refine ⟨url, found, congrArg Front.scheme same, ?_, ?_, ?_⟩
  · exact (congrArg Front.host same).trans (congrArg Front.host front)
  · exact (congrArg Front.port same).trans (congrArg Front.port front)
  · have own : url.path = ofText .server rest := congrArg Front.path same
    rw [own, text_ofText_server, parted, whole, single.namesOf_concat, spell_append, spell_singleton]

/-! ## A server with a blank at its end -/

theorem endsPlain_of_getLast? {cs : List Char} (h : cs.getLast? = some '/') : EndsPlain cs := by
  obtain ⟨before, rfl⟩ := List.getLast?_eq_some_iff.1 h
  intro c last
  rw [List.filter_append, List.filter_cons_of_pos (by decide), List.filter_nil, List.getLast?_concat,
    Option.some.injEq] at last
  rw [← last]
  decide

theorem isPlain_key : IsPlain "key".toList := ⟨by decide, by decide, by decide, by decide⟩

theorem split_key : Text.split Style.server.isSlash "key".toList = ["key".toList] := rfl

theorem Edges.isSlash {blanks : List Char} (edges : Edges blanks) :
    ∀ c ∈ blanks, Style.server.isSlash c = false := fun c member =>
  of_isEdge (P := fun c => Style.server.isSlash c = false) (by decide) (edges.edge c member)

/-- A blank at the end of the server's address shows in the path of the request, if the request has
an address at all. -/
theorem path_ne_of_blank {cs : List Char} {base url : Url} (parsed : parse? cs = some base)
    (web : IsWeb base.scheme) (unmarked : Unmarked cs) (blank : ¬ EndsPlain cs)
    (read : parse? (dropSlashes cs ++ '/' :: "key".toList) = some url) :
    url.path.text ≠ dropSlashes base.path.text ++ '/' :: "key".toList := by
  have colon := colon_mem_dropSlashes parsed web
  have whole : dropSlashes cs = cs :=
    dropSlashes_eq_self.2 fun last => blank (endsPlain_of_getLast? last)
  obtain ⟨core, opens⟩ := opens_of_parse? parsed web
  have front := front_of_parse? parsed
  rw [unmarkedPart_eq_self (unmarked_clean.2 unmarked)] at opens front
  rw [opens.ofHierarchy?_eq web, map_front_ofServer? web] at front
  have some : clean cs ≠ [] := by
    obtain ⟨-, rest, cuts, -⟩ := opens
    exact List.ne_nil_of_mem (mem_of_cutScheme? cuts)
  obtain ⟨blanks, edges, parts⟩ := exists_edges blank some
  have clear : Unmarked (clean cs ++ (blanks ++ '/' :: "key".toList)) :=
    unmarked_append.2 ⟨unmarked_clean.2 unmarked,
      unmarked_append.2 ⟨unmarked_of_isEdge edges.edge, isPlain_key.unmarked⟩⟩
  have readFront := front_of_parse? read
  rw [clean_dropSlashes_append colon (List.cons_ne_nil _ _) isPlain_key.unblank, whole, parts,
    List.append_assoc, unmarkedPart_eq_self clear, (opens.append _).ofHierarchy?_eq web,
    map_front_ofServer? web] at readFront
  rcases Text.cut_cases Style.server.isSlash core with ⟨none, -⟩ | ⟨server, c, tail, rfl, isSlash,
    none, cuts⟩
  · -- there is no path before the blanks, so they belong to the server, which cannot have them
    have ends : ∀ c ∈ core ++ blanks, Style.server.isSlash c = false :=
      List.forall_mem_append.2 ⟨none, edges.isSlash⟩
    rw [← List.append_assoc, Text.cut_append_cons ends (by decide),
      authority?_append_edges web.isSpecial core edges] at readFront
    cases readFront
  · -- there is one, so they belong to its last segment
    rw [List.append_assoc, List.cons_append, Text.cut_append_cons none isSlash] at readFront
    rw [cuts] at front
    obtain ⟨_, -, baseFront⟩ := Option.map_eq_some_iff.1 front
    obtain ⟨_, -, urlFront⟩ := Option.map_eq_some_iff.1 readFront
    obtain ⟨before, last, segments, longer⟩ := Text.split_eq_concat Style.server.isSlash tail
    have basePath : base.path.text = spell (namesOf (before ++ [last])) := by
      rw [← segments, ← text_ofText_server]
      exact congrArg (fun front => front.path.text) baseFront.symm
    have urlPath : url.path.text =
        spell (leadingNames (before ++ [last ++ blanks])) ++ '/' :: "key".toList := by
      have own : url.path = ofText .server (tail ++ (blanks ++ '/' :: "key".toList)) :=
        congrArg Front.path urlFront.symm
      rw [own, text_ofText_server, ← List.append_assoc, Text.split_append_separator (by decide),
        longer blanks edges.isSlash, split_key, isPlain_key.namesOf_concat,
        spell_append, spell_singleton]
    rw [urlPath, basePath]
    intro same
    exact spell_leadingNames_concat_edges_ne before last edges (List.append_cancel_right same)

end KeyClient.Url
