import SourceAudit.Proofs.Pattern.Guard
import SourceAudit.Proofs.Pattern.Nested
import SourceAudit.Rule.Draft

/-!
# SourceAudit.Proofs.Rule.Nesting

Which nested repetitions get past the check of a rule. The check looks at the text of a pattern and
not at its tree, so a nested repetition must be written in a way in which it does not see it: with a
backslash before the inner quantifier that is itself escaped, with something else than closing
parentheses between the two, or with blanks within one of them.

* `Hides` — the ways in which two quantifiers are hidden from the check;
* `nestsRepetition_of_not_hides` — the check finds what is not hidden;
* `RuleDraft.nests_hidden` — so nested repetitions in a pattern that is accepted are hidden.
-/

namespace SourceAudit

open Pattern Reader

namespace Pattern

/-! ## Quantifiers that are hidden -/

/-- The quantifiers in `before ++ inner ++ mark ++ gap ++ outer` are not seen by the check. -/
inductive Hides (before inner mark gap outer : List Char) : Prop
  /-- The inner quantifier has no mark, and stands after a backslash. -/
  | escaped (hmark : mark = []) (h : before.getLast? = some '\\')
  /-- The inner quantifier has no mark, and blanks are written in it. -/
  | inside (hmark : mark = []) (h : ¬ Unbounded inner)
  /-- Something else than closing parentheses stands between the quantifiers. -/
  | between {c : Char} (hc : c ∈ gap) (h : c ≠ ')')
  /-- Blanks are written in the outer quantifier. -/
  | outside (h : ¬ Unbounded outer)

section

variable {comment : Bool} {c : Char}
  {before inner mark gap outer after word text blanks : List Char}

theorem getLast?_cons_ne (hc : c ≠ '\\') (htext : text.getLast? ≠ some '\\') :
    (c :: text).getLast? ≠ some '\\' := by
  rw [List.getLast?_cons]
  cases hlast : text.getLast? with
  | none => simpa using hc
  | some d => simpa [hlast] using htext

/-- Blanks and comments do not end in a backslash. -/
theorem Reader.Spaced.getLast?_ne (h : Spaced comment word text) (hword : '\\' ∉ word) :
    text.getLast? ≠ some '\\' := by
  induction h with
  | nil => simp
  | char _ ih =>
      obtain ⟨hc, hword⟩ := List.ne_and_not_mem_of_not_mem_cons hword
      exact getLast?_cons_ne hc.symm (ih hword)
  | blank hc _ ih =>
      refine getLast?_cons_ne (fun heq => ?_) (ih hword)
      rw [heq] at hc
      exact absurd hc (by decide)
  | opens _ ih => exact getLast?_cons_ne (by decide) (ih hword)
  | @inside c word text _ h ih =>
      -- A comment is closed, so that this is not its last character.
      obtain ⟨d, text, rfl⟩ := List.exists_cons_of_ne_nil (l := text) (by rintro rfl; cases h)
      rw [List.getLast?_cons_cons]
      exact ih hword
  | closes _ ih => exact getLast?_cons_ne (by decide) (ih hword)

/-- An unbounded repetition is written without a backslash. -/
theorem backslash_notMem_of_unbounded (h : Unbounded word) : '\\' ∉ word := by
  cases h with
  | star => decide
  | plus => decide
  | least hdigits =>
      intro hmem
      simp only [List.mem_cons, List.mem_append, List.not_mem_nil, or_false] at hmem
      rcases hmem with heq | hmem | heq | heq
      · exact absurd heq (by decide)
      · exact absurd (hdigits _ hmem) (by decide)
      · exact absurd heq (by decide)
      · exact absurd heq (by decide)

/-- What stands before the mark of a quantifier is no backslash. -/
theorem getLast?_before_mark (before : List Char) (hinner : Repeats inner)
    (hblanks : Spaced false [] blanks) : (before ++ inner ++ blanks).getLast? ≠ some '\\' := by
  cases hinner with
  | @written c word text hword htext =>
    have hspaced : Spaced false (c :: word ++ []) (c :: text ++ blanks) :=
      (Spaced.char htext).append hblanks
    rw [List.append_nil] at hspaced
    have hne : c :: text ++ blanks ≠ [] := List.cons_ne_nil c _
    rw [List.append_assoc, List.getLast?_append_of_ne_nil _ hne]
    exact hspaced.getLast?_ne (backslash_notMem_of_unbounded hword)

/-- **The check finds what is not hidden.** -/
theorem nestsRepetition_of_not_hides {source : String} (hinner : Repeats inner) (hmark : Mark mark)
    (hne : gap ≠ [])
    (hsource : source.toList = before ++ inner ++ mark ++ gap ++ outer ++ after)
    (h : ¬ Hides before inner mark gap outer) : nestsRepetition source = true := by
  have hgap : ∀ c ∈ gap, c = ')' := fun c hc =>
    Classical.byContradiction fun hclose => h (.between hc hclose)
  have houter : Unbounded outer := Classical.byContradiction fun hspaced => h (.outside hspaced)
  cases hmark with
  | none =>
      rw [List.append_nil] at hsource
      have hword : Unbounded inner :=
        Classical.byContradiction fun hspaced => h (.inside rfl hspaced)
      exact nestsRepetition_of_plain hsource (fun hlast => h (.escaped rfl hlast)) (.inr hword)
        hgap hne houter
  | @written blanks m hm hblanks =>
      -- The check takes the mark for the inner quantifier.
      rw [← List.append_assoc] at hsource
      refine nestsRepetition_of_plain hsource (getLast?_before_mark before hinner hblanks) ?_ hgap
        hne houter
      rcases hm with rfl | rfl
      · exact .inl rfl
      · exact .inr .plus

end

end Pattern

namespace RuleDraft

open Input

/-- The check finds nothing in a pattern that is accepted. -/
theorem nestsRepetition_of_accepted {j : Json} {source : String} (h : patternText j = .good source) :
    nestsRepetition source = false := by
  unfold patternText at h
  cases htext : text j with
  | bad problems => simp [htext, Checked.andThen] at h
  | good s =>
      simp only [htext, Checked.andThen] at h
      split at h
      · cases h
      · cases h
      · split at h
        · cases h
        · next hnests =>
          cases h
          exact Bool.not_eq_true _ ▸ hnests

/-- A valid pattern is accepted if the check finds nothing in it. -/
theorem patternText_of_read {source : String} {p : Pattern}
    (hread : Pattern.read source false = .ok p) (h : nestsRepetition source = false) :
    patternText (.str source) = .good source := by
  have htext : text (.str source) = .good source := rfl
  rw [patternText, htext, Checked.andThen, hread, h]
  rfl

/-- **Nested repetitions that are accepted are hidden.** Let the text of a pattern be accepted in a
rule, and let the pattern as it is read, with or without regard to case, repeat without bound a part
whose end is repeated without bound. Then two unbounded quantifiers are written with nothing between
them that makes a difference, in one of the ways that hide them from the check. -/
theorem nests_hidden {j : Json} {source : String} {ignoreCase : Bool} {p : Pattern}
    (haccepted : patternText j = .good source) (hread : Pattern.read source ignoreCase = .ok p)
    (hnests : p.root.nests = true) :
    ∃ before inner mark gap outer after,
      source.toList = before ++ inner ++ mark ++ gap ++ outer ++ after ∧ Repeats inner ∧
        Mark mark ∧ Gap gap ∧ gap ≠ [] ∧ Repeats outer ∧ Hides before inner mark gap outer := by
  obtain ⟨before, inner, mark, gap, outer, after, hinner, hmark, hgap, hne, houter, hsource⟩ :=
    exhibits_of_nests hread hnests
  refine ⟨before, inner, mark, gap, outer, after, hsource, hinner, hmark, hgap, hne, houter, ?_⟩
  by_contra hplain
  have hfound := nestsRepetition_of_not_hides hinner hmark hne hsource hplain
  rw [nestsRepetition_of_accepted haccepted] at hfound
  exact Bool.false_ne_true hfound

end RuleDraft

namespace Sample

/-- A letter and one or more backslashes, one or more times: the check takes the second backslash
for the escape of the quantifier after it. -/
def backslashes : String := "(a\\\\+)+"

/-- The pattern of the example is read, and repeats a group that ends in a repetition. -/
theorem exists_read_backslashes :
    ∃ p, Pattern.read backslashes false = .ok p ∧ p.root.nests = true := by
  have hread : (Pattern.read backslashes false).toOption.any (·.root.nests) = true := by
    decide +kernel
  cases hp : Pattern.read backslashes false with
  | error why => simp [hp, Except.toOption] at hread
  | ok p =>
      rw [hp, Except.toOption, Option.any_some] at hread
      exact ⟨p, rfl, hread⟩

/-- The guard does not see it. -/
theorem nestsRepetition_backslashes : nestsRepetition backslashes = false := by decide +kernel

/-- A repetition within another one is accepted. -/
theorem backslashes_accepted :
    RuleDraft.patternText (.str backslashes) = .good backslashes ∧
      ∃ p, Pattern.read backslashes false = .ok p ∧ p.root.nests = true := by
  obtain ⟨p, hread, hnests⟩ := exists_read_backslashes
  exact ⟨RuleDraft.patternText_of_read hread nestsRepetition_backslashes, p, hread, hnests⟩

theorem nests_hidden_backslashes :
    ∃ before inner mark gap outer after,
      backslashes.toList = before ++ inner ++ mark ++ gap ++ outer ++ after ∧ Repeats inner ∧
        Mark mark ∧ Gap gap ∧ gap ≠ [] ∧ Repeats outer ∧ Hides before inner mark gap outer := by
  obtain ⟨p, hread, hnests⟩ := exists_read_backslashes
  exact RuleDraft.nests_hidden (RuleDraft.patternText_of_read hread nestsRepetition_backslashes)
    hread hnests

end Sample

end SourceAudit
