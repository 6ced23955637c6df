import KeyClient.Client
import Mathlib.Data.List.DropRight

/-!
# Dropping slashes

A client drops the slashes at the end of its server's address.  A text is what is left of it with
slashes behind it (`exists_eq_dropSlashes_append`), and what is left ends in none
(`getLast?_dropSlashes`).  So slashes at the end of an address make no difference to a client
(`ofAddress_append_slashes`).
-/

namespace KeyClient.Client

theorem dropSlashes_eq_rdropWhile (cs : List Char) : dropSlashes cs = cs.rdropWhile (· == '/') := rfl

theorem dropSlashes_append_replicate (cs : List Char) (count : Nat) :
    dropSlashes (cs ++ List.replicate count '/') = dropSlashes cs := by
  induction count with
  | zero => simp
  | succ count ih =>
    rw [List.replicate_succ', ← List.append_assoc, dropSlashes_eq_rdropWhile,
      List.rdropWhile_concat_pos _ _ _ (by rfl), ← dropSlashes_eq_rdropWhile, ih]

theorem exists_eq_dropSlashes_append (cs : List Char) :
    ∃ count, cs = dropSlashes cs ++ List.replicate count '/' := by
  refine ⟨(cs.rtakeWhile (· == '/')).length, ?_⟩
  have slashes : cs.rtakeWhile (· == '/') =
      List.replicate (cs.rtakeWhile (· == '/')).length '/' :=
    List.eq_replicate_iff.2 ⟨rfl, fun c member => by
      simpa using List.mem_rtakeWhile_imp member⟩
  rw [← slashes, dropSlashes_eq_rdropWhile, List.rdropWhile_append_rtakeWhile]

theorem length_dropSlashes_le (cs : List Char) : (dropSlashes cs).length ≤ cs.length := by
  obtain ⟨count, parts⟩ := exists_eq_dropSlashes_append cs
  have lengths := congrArg List.length parts
  rw [List.length_append] at lengths
  omega

theorem mem_of_mem_dropSlashes {cs : List Char} {c : Char} (h : c ∈ dropSlashes cs) : c ∈ cs :=
  (List.rdropWhile_prefix _ cs).subset h

/-- A text keeps its slashes exactly if it ends in none. -/
theorem dropSlashes_eq_self {cs : List Char} : dropSlashes cs = cs ↔ cs.getLast? ≠ some '/' := by
  rw [dropSlashes_eq_rdropWhile, List.rdropWhile_eq_self_iff]
  constructor
  · intro h last
    have some : cs ≠ [] := by
      rintro rfl
      cases last
    rw [List.getLast?_eq_some_getLast some, Option.some.injEq] at last
    exact h some (by rw [last]; rfl)
  · intro h some isSlash
    rw [beq_iff_eq] at isSlash
    exact h (by rw [List.getLast?_eq_some_getLast some, isSlash])

theorem getLast?_dropSlashes (cs : List Char) : (dropSlashes cs).getLast? ≠ some '/' := by
  intro last
  rw [dropSlashes_eq_rdropWhile] at last
  have some : cs.rdropWhile (· == '/') ≠ [] := by
    intro none
    rw [none] at last
    cases last
  have slash := List.rdropWhile_last_not (· == '/') cs some
  rw [List.getLast?_eq_some_getLast some, Option.some.injEq] at last
  rw [last] at slash
  exact slash rfl

/-! ## Addresses with slashes at the end -/

/-- A number of slashes. -/
def slashes (count : Nat) : String := String.ofList (List.replicate count '/')

theorem toList_baseUrl (address : String) (timeoutMs : Option Number) :
    (ofAddress address timeoutMs).baseUrl.toList = dropSlashes address.toList := by
  rw [ofAddress, String.toList_ofList]

theorem ofAddress_congr {address other : String}
    (h : dropSlashes address.toList = dropSlashes other.toList) (timeoutMs : Option Number) :
    ofAddress address timeoutMs = ofAddress other timeoutMs := by
  rw [ofAddress, ofAddress, h]

/-- **Slashes at the end of an address do not matter.**  With any number of them behind an address, a
client has the same address, which is the given one without the slashes at its end; it asks the same
of every transport and comes to the same outcome, and making a client of its address changes
nothing. -/
theorem ofAddress_append_slashes (address : String) (count : Nat) (timeoutMs : Option Number) :
    let client := ofAddress address timeoutMs
    let slashed := ofAddress (address ++ slashes count) timeoutMs
    slashed.baseUrl = client.baseUrl ∧
      client.baseUrl.toList.getLast? ≠ some '/' ∧
      (∃ dropped, address = client.baseUrl ++ slashes dropped) ∧
      (∀ (r : KeyRequest) (transport : Http.Transport),
        (slashed.startKey r).request? = (client.startKey r).request? ∧
          (slashed.startKey r).finish transport = (client.startKey r).finish transport) ∧
      ofAddress client.baseUrl timeoutMs = client := by
  intro client slashed
  have same : slashed = client := by
    refine ofAddress_congr ?_ timeoutMs
    rw [slashes, String.toList_append, String.toList_ofList, dropSlashes_append_replicate]
  have bare : client.baseUrl.toList.getLast? ≠ some '/' := by
    rw [toList_baseUrl]
    exact getLast?_dropSlashes address.toList
  obtain ⟨dropped, parts⟩ := exists_eq_dropSlashes_append address.toList
  refine ⟨congrArg baseUrl same, bare, ⟨dropped, ?_⟩, fun r transport => ?_, ?_⟩
  · rw [← String.toList_inj, String.toList_append, toList_baseUrl, slashes, String.toList_ofList]
    exact parts
  · rw [same]
    exact ⟨rfl, rfl⟩
  · refine ofAddress_congr ?_ timeoutMs
    rw [dropSlashes_eq_self.2 bare, toList_baseUrl]

/-- Of an address of slashes alone nothing is left; a line end keeps the slashes before it. -/
example : (ofAddress "///" none).baseUrl = "" ∧ (ofAddress "a//\n/" none).baseUrl = "a//\n" := by
  decide +kernel

end KeyClient.Client
