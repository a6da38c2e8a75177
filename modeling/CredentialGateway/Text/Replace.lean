import CredentialGateway.Text

/-!
# Replacement of a text in a text

`replaceAll p b s` reads `s` from the left.  Where `p` starts, it writes `b` and goes on behind the
occurrence, so occurrences never overlap and what was written is never read again.  The empty
text starts everywhere: it is found before every character and once at the end.

    p ≠ [] →  replaceAll p b (p ++ t) = b ++ replaceAll p b t        (replaceAll_append)
    p is not a part of s →  replaceAll p b s = s                     (replaceAll_of_not_infix)
-/

namespace CredentialGateway.Text

/-! ## Algorithm -/

/-- Every occurrence of `p`, from the left and without overlap, replaced by `b`. -/
def replaceAll (p b : Text) : Text → Text
  | [] => if p.isEmpty then b else []
  | c :: s =>
    if p.isEmpty then b ++ c :: replaceAll p b s
    else if p.isPrefixOf (c :: s) then b ++ replaceAll p b (s.drop (p.length - 1))
    else c :: replaceAll p b s
termination_by s => s.length

/-! ## Lemmas -/

/-- An occurrence at the front is replaced, and reading goes on behind it. -/
theorem replaceAll_append {p : Text} (hp : p ≠ []) (b t : Text) :
    replaceAll p b (p ++ t) = b ++ replaceAll p b t := by
  obtain ⟨c, q, rfl⟩ := List.exists_cons_of_ne_nil hp
  rw [List.cons_append, replaceAll]
  have h : (c :: q).isPrefixOf (c :: (q ++ t)) = true := by
    rw [List.isPrefixOf_iff_prefix]; exact ⟨t, by simp⟩
  simp [h]

/-- A text without an occurrence is left alone. -/
theorem replaceAll_of_not_infix {p : Text} (hp : p ≠ []) (b : Text) {s : Text}
    (h : ¬ p <:+: s) : replaceAll p b s = s := by
  induction s with
  | nil => rw [replaceAll]; simp [hp]
  | cons c s ih =>
    rw [replaceAll]
    have hpre : p.isPrefixOf (c :: s) = false := by
      rw [Bool.eq_false_iff]
      intro hc
      exact h (List.isPrefixOf_iff_prefix.1 hc).isInfix
    have hs : ¬ p <:+: s := fun hi => h (hi.trans (List.suffix_cons c s).isInfix)
    simp [hp, hpre, ih hs]

end CredentialGateway.Text
