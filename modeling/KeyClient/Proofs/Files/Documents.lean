import KeyClient.Proofs.Files.Growth
import KeyClient.Proofs.Json.Plain
import KeyClient.Proofs.Text.Utf8

/-!
# Documents are read back

A value that has been written into a file is there as JSON text that ends in a line end
(`Files.IsDocument`).  It is read back as JSON expresses it, and writing what was read changes
nothing (`Files.readDocument_writeDocument`).
-/

namespace KeyClient.Files

open KeyClient.Files.Tree KeyClient.Files.Tree.Change

variable {tree later : Tree} {place : Place} {value : Value}

/-! ## Reading -/

theorem readDocument_of_directory {place : Place} (there : tree.entry place = some .directory) :
    readDocument tree place =
      .error (.unreadable place (.path (.system ⟨.isDirectory, "read", place.path⟩))) := by
  have present := has_of_entry there
  rw [readDocument, if_pos present, Tree.read, there]

theorem readDocument_of_file {place : Place} {octets : List UInt8}
    (there : tree.entry place = some (.file octets)) :
    readDocument tree place =
      match Json.read? (Text.Utf8.decode octets) with
      | some value => .ok value
      | none => .error (.unreadable place .malformed) := by
  have present := has_of_entry there
  have read : tree.read place = .ok octets := by rw [Tree.read, there]
  rw [readDocument, if_pos present]
  generalize tree.read place = found at read
  subst read
  rfl

/-- What is written of a value is read back as its normal form. -/
theorem read?_documentOctets (exact : value.IsExact) (present : value ≠ .undefined) :
    Json.read? (Text.Utf8.decode (documentOctets value)) = some value.normal := by
  rw [documentOctets, Text.Utf8.decode_encode, Json.read?_pretty exact present]

/-- A value and what JSON expresses of it have the same octets. -/
theorem documentOctets_plain (present : value ≠ .undefined) :
    documentOctets value.plain = documentOctets value := by
  rw [documentOctets, Json.pretty_plain present, documentOctets]

/-! ## Writing -/

/-- The value is in a file that can be written: its path, its name and its directory can be used. -/
structure IsDocument (tree : Tree) (place : Place) (value : Value) : Prop where
  directory : Place.IsUsable place.tail
  path : place.IsUsable
  name : ∀ name ∈ place.head?, Place.isLongName name = false
  file : tree.entry place = some (.file (documentOctets value))

theorem not_isLongName_of_write {octets : List UInt8} :
    tree.write place octets = .ok later → ∀ name ∈ place.head?, Place.isLongName name = false := by
  fun_cases Tree.write tree place octets with
  | case5 name parent inside short _ _ =>
    rintro - other ⟨⟩
    simpa using short
  | _ => rintro ⟨⟩

theorem write_of_writeFile {octets : List UInt8} (h : writeFile tree place octets = .done later) :
    tree.write place octets = .ok later := by
  unfold writeFile at h
  split at h
  · cases congrArg Change.result h
  · cases written : tree.write place octets with
    | error errno =>
      rw [written] at h
      cases congrArg Change.result h
    | ok new =>
      rw [written] at h
      cases h
      rfl

/-- In a directory that is ready the value is written into its file. -/
theorem isDocument_of_writeFile (directory : Place.IsUsable place.tail)
    (written : writeFile tree place (documentOctets value) = .done later) :
    IsDocument later place value := by
  rcases writeFile_cases tree place (documentOctets value) with
    ⟨new, same, usable, entries⟩ | ⟨error, failed⟩
  · rw [same] at written
    cases written
    refine ⟨directory, usable, not_isLongName_of_write (write_of_writeFile same), ?_⟩
    rw [entries, if_pos rfl]
  · rw [failed] at written
    cases congrArg Change.result written

/-- A success of writing leaves the value in its file. -/
theorem isDocument_of_writeDocument (written : (writeDocument tree place value).result = .ok ()) :
    IsDocument (writeDocument tree place value).tree place value := by
  -- Once the directory is ready, all depends on the file.
  have file : ∀ ready, Place.IsUsable place.tail →
      ensureDirectory tree place.tail = .done ready →
      IsDocument (writeDocument tree place value).tree place value := by
    intro ready usable made
    rw [writeDocument, made, andThen_done] at written ⊢
    rcases writeFile_cases ready place (documentOctets value) with ⟨new, done, -⟩ | ⟨error, failed⟩
    · rw [done]
      exact isDocument_of_writeFile usable done
    · rw [failed] at written
      cases written
  rcases ensureDirectory_cases tree place.tail with
    ⟨usable, -, made⟩ | ⟨usable, -, -, made⟩ | ⟨new, error, made, -⟩
  · exact file _ usable made
  · exact file _ usable made
  · rw [writeDocument, made, andThen_failed] at written
    cases written

namespace IsDocument

/-- The file ends in a line end. -/
theorem ends (h : IsDocument tree place value) : ∃ text : List Char,
    tree.entry place = some (.file (Text.Utf8.encode (text ++ ['\n']))) :=
  ⟨(Json.pretty value).toList, h.file⟩

/-- A value is read as JSON expresses it. -/
theorem read (h : IsDocument tree place value) (exact : value.IsExact) (ordered : value.IsOrdered)
    (present : value ≠ .undefined) : readDocument tree place = .ok value.plain := by
  rw [readDocument_of_file h.file, read?_documentOctets exact present,
    Value.normal_eq_plain value ordered]

/-- Writing the same octets again changes nothing. -/
theorem write_again (h : IsDocument tree place value) {other : Value}
    (same : documentOctets other = documentOctets value) :
    writeDocument tree place other = .done tree := by
  cases place with
  | nil =>
    have root := h.file
    rw [tree.root] at root
    cases root
  | cons name parent =>
    have inside : tree.entry parent = some .directory :=
      tree.closed name parent (by simp [h.file])
    have ready : ensureDirectory tree parent = .done tree :=
      ensureDirectory_of_has h.directory (has_of_entry inside)
    have written : writeFile tree (name :: parent) (documentOctets value) = .done tree :=
      writeFile_of_entry h.path (h.name name rfl) h.file
    rw [writeDocument, same, List.tail_cons, ready, andThen_done, written, mapError_done]

end IsDocument

/-- **Documents are read back.**  If a value can be written into a file, then the text in the file
ends in a line end, the value is read back as JSON expresses it, with all members in their places,
and writing what has been read succeeds without changing anything. -/
theorem document_reads_back (tree : Tree) (place : Place) (value : Value) (exact : value.IsExact)
    (ordered : value.IsOrdered) (present : value ≠ .undefined)
    (written : (writeDocument tree place value).result = .ok ()) :
    let later := (writeDocument tree place value).tree
    (∃ text : List Char,
      later.entry place = some (.file (Text.Utf8.encode (text ++ ['\n'])))) ∧
    readDocument later place = .ok value.plain ∧
    (writeDocument later place value.plain).result = .ok () ∧
    (writeDocument later place value.plain).tree = later := by
  intro later
  have document := isDocument_of_writeDocument written
  have again := document.write_again (documentOctets_plain present)
  exact ⟨document.ends, document.read exact ordered present, by rw [again]; rfl, by rw [again]; rfl⟩

/-- A nested value with everything that JSON cannot express, written where nothing is. -/
theorem document_reads_back_nested :
    let value : Value := .object [("2", .array [.undefined, .number .nan, .number .negativeZero]),
      ("b", .undefined), ("__proto__", .string "\n\"é"),
      ("a", .object [("x", .number (.integer (-7)))])]
    let later := (writeDocument .empty ["v.json", "d"] value).tree
    (∃ text : List Char,
      later.entry ["v.json", "d"] = some (.file (Text.Utf8.encode (text ++ ['\n'])))) ∧
    readDocument later ["v.json", "d"] = .ok (.object
      [("2", .array [.null, .null, .number (.integer 0)]), ("__proto__", .string "\n\"é"),
        ("a", .object [("x", .number (.integer (-7)))])]) ∧
    (writeDocument later ["v.json", "d"] value.plain).result = .ok () ∧
    (writeDocument later ["v.json", "d"] value.plain).tree = later := by
  intro value later
  have exact : value.IsExact := by
    simp [value, Value.IsExact, Value.AreExact, Value.HasExact, Number.IsExact]
    decide
  have ordered : value.IsOrdered := by
    have outer : Members.AreOrdered ["2", "b", "__proto__", "a"] := by decide
    have inner : Members.AreOrdered ["x"] := by decide
    simp [value, Value.IsOrdered, Value.AreAllOrdered, Value.HasOrdered, outer, inner]
  exact document_reads_back .empty ["v.json", "d"] value exact ordered (by simp [value]) rfl

end KeyClient.Files
