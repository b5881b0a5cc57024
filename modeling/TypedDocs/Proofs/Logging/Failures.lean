import TypedDocs.Logging.Start

/-!
# Lines of failures

A failure of the program is logged on one line, of a bounded length, whatever its message is.  A
message that is short and has no line breaks is logged as it is.

    OnOneLine location → OnOneLine (failureLine location message) ∧
      (failureLine location message).length ≤ location.length + 258              (failureLine_bounded)
-/

namespace TypedDocs.Logging

/-- A text without line breaks. -/
def OnOneLine (text : String) : Prop := ∀ c ∈ text.toList, c ≠ '\n' ∧ c ≠ '\r'

instance (text : String) : Decidable (OnOneLine text) :=
  List.decidableBAll (fun c => c ≠ '\n' ∧ c ≠ '\r') text.toList

variable {limit : Nat} {location message : String}

theorem OnOneLine.append {text other : String} (ht : OnOneLine text) (ho : OnOneLine other) :
    OnOneLine (text ++ other) := by
  intro c hc
  rw [String.toList_append, List.mem_append] at hc
  exact hc.elim (ht c) (ho c)

/-- What is cut off after flattening has no line breaks either. -/
theorem onOneLine_singleLine (limit : Nat) (message : String) :
    OnOneLine (singleLine limit message) := by
  have hflat : ∀ c ∈ message.toList.map fun c => if c = '\n' || c = '\r' then ' ' else c,
      c ≠ '\n' ∧ c ≠ '\r' := by
    intro c hc
    obtain ⟨original, -, rfl⟩ := List.mem_map.1 hc
    by_cases hbreak : original = '\n' ∨ original = '\r'
    · simp [hbreak]
    · have hboth := not_or.1 hbreak
      simp [hboth.1, hboth.2]
  intro c hc
  simp only [singleLine] at hc
  split at hc
  · rw [String.toList_ofList] at hc
    exact hflat c hc
  · rw [String.toList_ofList, List.mem_append] at hc
    rcases hc with hkept | hdots
    · exact hflat c (List.mem_of_mem_take hkept)
    · have hdot : c = '.' := by simpa using hdots
      subst hdot
      decide

theorem length_singleLine_le (limit : Nat) (message : String) :
    (singleLine limit message).length ≤ limit + 3 := by
  simp only [singleLine]
  split
  · next hshort =>
    rw [String.length_ofList]
    omega
  · rw [String.length_ofList, List.length_append, List.length_take]
    simp only [List.length_cons, List.length_nil]
    omega

/-- A short message on one line stays as it is. -/
theorem singleLine_eq_self (hm : OnOneLine message) (hl : message.length ≤ limit) :
    singleLine limit message = message := by
  have hflat : (message.toList.map fun c => if c = '\n' || c = '\r' then ' ' else c) =
      message.toList := by
    conv => rhs; rw [← List.map_id message.toList]
    refine List.map_congr_left fun c hc => ?_
    simp [hm c hc]
  simp only [singleLine, hflat]
  rw [String.length_toList, if_pos hl, String.ofList_toList]

/-- The line of a failure has no line breaks where its location has none, and only the location
adds to its length. -/
theorem failureLine_bounded (hl : OnOneLine location) (message : String) :
    OnOneLine (failureLine location message) ∧
      (failureLine location message).length ≤ location.length + 258 := by
  have hhead : OnOneLine failureHead := by decide
  have hplace : OnOneLine " location=" := by decide
  have htext : OnOneLine " message=" := by decide
  constructor
  · exact (((hhead.append hplace).append hl).append htext).append
      (onOneLine_singleLine maxMessageLength message)
  · have hmessage := length_singleLine_le maxMessageLength message
    have hfixed : failureHead.length + " location=".length + " message=".length = 55 := by decide
    have hmax : maxMessageLength = 200 := rfl
    simp only [failureLine, String.length_append]
    omega

/-- Line breaks become blanks, and what is too long is cut off. -/
example : singleLine 10 "a\nb\rc" = "a b c" ∧ singleLine 3 "abcdef" = "abc..." := by decide

end TypedDocs.Logging
