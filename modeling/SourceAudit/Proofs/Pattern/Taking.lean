import Mathlib.Data.List.Infix
import SourceAudit.Pattern.Reader

/-!
# SourceAudit.Proofs.Pattern.Taking

Reading takes characters from the front of what is left and from nowhere else.
-/

namespace SourceAudit.Pattern.Reader

open Text

/-! ## Runs -/

/-- Reading at `p` succeeds with `a`, and has then come to `p'`. -/
def Runs {α : Type} (reading : Reading α) (p : Progress) (a : α) (p' : Progress) : Prop :=
  reading p = .ok (a, p')

section

variable {α β : Type} {p p' : Progress} {a : α} {b : β}

/-- Reading one thing and then another succeeds if both do, one after the other. -/
@[grind =]
theorem runs_bind {reading : Reading α} {f : α → Reading β} :
    Runs (reading >>= f) p b p' ↔ ∃ a q, Runs reading p a q ∧ Runs (f a) q b p' := by
  simp only [Runs, bind, StateT.bind, Except.bind]
  cases h : reading p with
  | error why => simp
  | ok out =>
      obtain ⟨a, q⟩ := out
      simp

@[grind =]
theorem runs_pure {c : α} : Runs (pure c) p a p' ↔ c = a ∧ p = p' := by
  change (Except.ok (c, p) : Except Stop _) = .ok (a, p') ↔ _
  rw [Except.ok.injEq, Prod.mk.injEq]

/-- What has been read may be changed without more reading. -/
@[grind =]
theorem runs_map {reading : Reading α} {f : α → β} :
    Runs (f <$> reading) p b p' ↔ ∃ a, Runs reading p a p' ∧ f a = b := by
  rw [map_eq_pure_bind, runs_bind]
  constructor
  · rintro ⟨a, q, hread, hpure⟩
    obtain ⟨rfl, rfl⟩ := runs_pure.mp hpure
    exact ⟨a, hread, rfl⟩
  · rintro ⟨a, hread, rfl⟩
    exact ⟨a, p', hread, runs_pure.mpr ⟨rfl, rfl⟩⟩

/-- Where reading stops there is no result. -/
@[grind =]
theorem runs_throw {why : Stop} : Runs (throw why) p a p' ↔ False := by
  simp [Runs, throw, throwThe, MonadExceptOf.throw, StateT.lift, Except.bind, bind]

@[grind =]
theorem runs_invalid : Runs invalid p a p' ↔ False := runs_throw

@[grind =]
theorem runs_progress {q : Progress} : Runs progress p q p' ↔ p = q ∧ p = p' := by
  simp [Runs, progress, get, getThe, MonadStateOf.get, StateT.get, pure, Except.pure]

@[grind =]
theorem runs_modify {f : Progress → Progress} {u : PUnit} : Runs (modify f) p u p' ↔ f p = p' := by
  simp [Runs, modify, modifyGet, MonadStateOf.modifyGet, StateT.modifyGet, pure, Except.pure]

@[grind =]
theorem runs_set {q : Progress} {u : PUnit} : Runs (set q) p u p' ↔ q = p' := by
  change (Except.ok (PUnit.unit, q) : Except Stop _) = .ok (u, p') ↔ _
  simp

/-- Going on from some characters changes nothing but what is left. -/
@[grind =]
theorem runs_goTo {cs : List Char} {u : Unit} :
    Runs (goTo cs) p u p' ↔ { p with rest := cs } = p' := runs_modify

/-- To look at what is left takes nothing from it. -/
@[grind =]
theorem runs_rest {cs : List Char} : Runs rest p cs p' ↔ p.rest = cs ∧ p = p' := by
  simp only [rest, runs_bind, runs_progress, runs_pure]
  grind

@[grind =]
theorem runs_flags {f : Flags} : Runs flags p f p' ↔ p.flags = f ∧ p = p' := by
  simp only [flags, runs_bind, runs_progress, runs_pure]
  grind

/-- To look at the next character that counts does not take it. -/
@[grind =]
theorem runs_peek {c : Option Char} : Runs peek p c p' ↔ (counted p).head? = c ∧ p = p' := by
  simp only [peek, runs_bind, runs_progress, runs_pure]
  grind

/-- What is attempted has been read, or nothing has. -/
@[grind →]
theorem runs_of_attempt {why : Stop} {reading : Reading α} {a : Option α}
    (h : Runs (attempt why reading) p a p') :
    (∃ b, a = some b ∧ Runs reading p b p') ∨ a = none ∧ p' = p := by
  unfold Runs attempt at h
  cases hread : reading p with
  | error e =>
      rw [hread] at h
      simp only at h
      split at h
      · cases h
        exact .inr ⟨rfl, rfl⟩
      · cases h
  | ok out =>
      obtain ⟨b, q⟩ := out
      rw [hread] at h
      cases h
      exact .inl ⟨b, rfl, hread⟩

end

/-! ## What is left -/

/-- After some characters have been taken from the front of `r`, `r'` is left. -/
def Leaves (r r' : List Char) : Prop := r' <:+ r

section

variable {r r' r'' : List Char}

@[grind →]
theorem Leaves.trans (h : Leaves r r') (h' : Leaves r' r'') : Leaves r r'' :=
  List.IsSuffix.trans h' h

@[grind ←]
theorem Leaves.refl (r : List Char) : Leaves r r := List.suffix_rfl

theorem leaves_tail (c : Char) (r : List Char) : Leaves (c :: r) r := List.suffix_cons c r

grind_pattern leaves_tail => c :: r

theorem leaves_drop (n : Nat) (r : List Char) : Leaves r (r.drop n) := List.drop_suffix n r

grind_pattern leaves_drop => r.drop n

@[grind .]
theorem leaves_nil (r : List Char) : Leaves r [] := List.nil_suffix

/-- Blanks are skipped at the front. -/
@[grind →]
theorem leaves_skipBlanks {comment : Bool} (h : skipBlanks comment r = some r') : Leaves r r' := by
  fun_induction skipBlanks comment r <;> grind

/-- The characters that count from here on begin behind some that do not. -/
theorem leaves_counted (p : Progress) : Leaves p.rest (counted p) := by
  unfold counted
  split
  · cases hskip : skipBlanks false p.rest <;> grind
  · grind

grind_pattern leaves_counted => counted p

/-- Characters are taken, and others skipped, at the front. -/
theorem leaves_takeSkipping (wanted : Char → Bool) (comment : Bool) (r : List Char) :
    Leaves r (takeSkipping wanted comment r).2 := by
  fun_induction takeSkipping wanted comment r <;> grind

grind_pattern leaves_takeSkipping => takeSkipping wanted comment r

end

/-! ## Words with blanks in them -/

/-- A text that spells a word, with blanks and comments that are skipped; with `comment`, it begins
within a comment. -/
inductive Spaced : (comment : Bool) → (word text : List Char) → Prop
  | nil : Spaced false [] []
  | char {c : Char} {word text : List Char} (h : Spaced false word text) :
      Spaced false (c :: word) (c :: text)
  | blank {c : Char} {word text : List Char} (hc : isBlank c = true) (h : Spaced false word text) :
      Spaced false word (c :: text)
  | opens {word text : List Char} (h : Spaced true word text) : Spaced false word ('#' :: text)
  | inside {c : Char} {word text : List Char} (hc : c ≠ '\n') (h : Spaced true word text) :
      Spaced true word (c :: text)
  | closes {word text : List Char} (h : Spaced false word text) : Spaced true word ('\n' :: text)

section

variable {comment : Bool} {word word' text text' r r' : List Char} {c : Char} {p p' : Progress}

/-- Texts that spell two words spell the two together. -/
theorem Spaced.append (h : Spaced comment word text) (h' : Spaced false word' text') :
    Spaced comment (word ++ word') (text ++ text') := by
  induction h with
  | nil => exact h'
  | char _ ih => exact .char ih
  | blank hc _ ih => exact .blank hc ih
  | opens _ ih => exact .opens ih
  | inside hc _ ih => exact .inside hc ih
  | closes _ ih => exact .closes ih

/-- A word with a character in it is not spelled by nothing. -/
theorem Spaced.ne_nil (h : Spaced comment (c :: word) text) : text ≠ [] := by
  rintro rfl
  cases h

/-- Every word spells itself. -/
theorem spaced_refl (word : List Char) : Spaced false word word := by
  induction word with
  | nil => exact .nil
  | cons c word ih => exact .char ih

/-- What is skipped before a character are blanks and comments. -/
theorem spaced_of_skipBlanks (h : skipBlanks comment r = some (c :: r')) :
    ∃ text, Spaced comment [] text ∧ r = text ++ c :: r' := by
  fun_induction skipBlanks comment r with
  | case1 => simp at h
  | case2 => simp at h
  | case3 cs ih =>
      obtain ⟨text, htext, rfl⟩ := ih h
      exact ⟨'\n' :: text, .closes htext, rfl⟩
  | case4 d cs hd ih =>
      obtain ⟨text, htext, rfl⟩ := ih h
      exact ⟨d :: text, .inside hd htext, rfl⟩
  | case5 comment cs hcomment ih =>
      obtain rfl := Bool.eq_false_iff.mpr hcomment
      obtain ⟨text, htext, rfl⟩ := ih h
      exact ⟨'#' :: text, .opens htext, rfl⟩
  | case6 comment d cs hcomment _ hblank ih =>
      obtain rfl := Bool.eq_false_iff.mpr hcomment
      obtain ⟨text, htext, rfl⟩ := ih h
      exact ⟨d :: text, .blank hblank htext, rfl⟩
  | case7 comment d cs hcomment =>
      obtain rfl := Bool.eq_false_iff.mpr hcomment
      cases h
      exact ⟨[], .nil, rfl⟩

/-- Before the next character that counts there are only blanks and comments. -/
theorem spaced_of_counted (h : counted p = c :: r) :
    ∃ text, Spaced false [] text ∧ p.rest = text ++ c :: r := by
  unfold counted at h
  split at h
  · cases hskip : skipBlanks false p.rest with
    | none => simp [hskip] at h
    | some cs =>
        rw [hskip, Option.getD_some] at h
        exact spaced_of_skipBlanks (h ▸ hskip)
  · exact ⟨[], .nil, h⟩

/-- What is taken is a word with blanks in it. At the end of the source this cannot be said, as a
comment may be open there. -/
theorem spaced_of_takeSkipping {wanted : Char → Bool}
    (hrest : (takeSkipping wanted comment r).2 ≠ []) :
    ∃ text, Spaced comment (takeSkipping wanted comment r).1 text ∧
      r = text ++ (takeSkipping wanted comment r).2 := by
  fun_induction takeSkipping wanted comment r with
  | case1 => simp at hrest
  | case2 d cs ih =>
      obtain ⟨text, htext, heq⟩ := ih hrest
      by_cases hd : d = '\n'
      · simp only [hd, ne_eq, not_true_eq_false, decide_false] at htext heq ⊢
        exact ⟨'\n' :: text, .closes htext, congrArg _ heq⟩
      · simp only [hd, ne_eq, not_false_eq_true, decide_true] at htext heq ⊢
        exact ⟨d :: text, .inside hd htext, congrArg _ heq⟩
  | case3 comment cs hcomment ih =>
      obtain rfl := Bool.eq_false_iff.mpr hcomment
      obtain ⟨text, htext, heq⟩ := ih hrest
      exact ⟨'#' :: text, .opens htext, congrArg _ heq⟩
  | case4 comment d cs hcomment _ hblank ih =>
      obtain rfl := Bool.eq_false_iff.mpr hcomment
      obtain ⟨text, htext, heq⟩ := ih hrest
      exact ⟨d :: text, .blank hblank htext, congrArg _ heq⟩
  | case5 comment d cs hcomment _ _ _ taken cs' htaken ih =>
      obtain rfl := Bool.eq_false_iff.mpr hcomment
      rw [htaken] at ih
      obtain ⟨text, htext, heq⟩ := ih hrest
      exact ⟨d :: text, .char htext, congrArg _ heq⟩
  | case6 comment d cs hcomment =>
      obtain rfl := Bool.eq_false_iff.mpr hcomment
      exact ⟨[], .nil, rfl⟩

/-- Only wanted characters are taken. -/
theorem forall_of_takeSkipping {wanted : Char → Bool} :
    ∀ d ∈ (takeSkipping wanted comment r).1, wanted d = true := by
  fun_induction takeSkipping wanted comment r <;> simp_all

/-! ### What is read -/

/-- A character that counts comes after blanks and comments. -/
theorem spaced_of_next (h : Runs next p (some c) p') :
    ∃ text, Spaced false [] text ∧ p.rest = text ++ c :: p'.rest := by
  unfold next at h
  simp only [runs_bind, runs_progress] at h
  obtain ⟨q, q', ⟨rfl, rfl⟩, h⟩ := h
  split at h
  · grind
  · next d cs hcounted =>
    obtain ⟨text, htext, hrest⟩ := spaced_of_counted hcounted
    exact ⟨text, htext, by grind⟩

/-- Taking the characters of a text one after the other. -/
theorem spaced_of_foldl {q : Progress}
    (h : word.foldl (fun cs? t => cs?.bind fun cs =>
        match counted { q with rest := cs } with
        | c :: cs => if c = t then some cs else none
        | [] => none) (some r) = some r') :
    ∃ text, Spaced false word text ∧ r = text ++ r' := by
  induction word generalizing r with
  | nil =>
      cases h
      exact ⟨[], .nil, rfl⟩
  | cons t word ih =>
      have hnone : word.foldl (fun cs? t => cs?.bind fun cs =>
          match counted { q with rest := cs } with
          | c :: cs => if c = t then some cs else none
          | [] => none) none = none := by
        clear ih h
        induction word with
        | nil => rfl
        | cons u word ih => exact ih
      rw [List.foldl_cons, Option.bind_some] at h
      split at h
      · next c cs hcounted =>
        split at h
        · next hc =>
          subst hc
          obtain ⟨blanks, hblanks, hrest⟩ := spaced_of_counted hcounted
          obtain ⟨text, htext, rfl⟩ := ih h
          refine ⟨blanks ++ c :: text, hblanks.append (.char htext), ?_⟩
          rw [List.append_assoc]
          exact hrest
        · rw [hnone] at h
          cases h
      · rw [hnone] at h
        cases h

/-- What is accepted is there. -/
theorem spaced_of_accepts {text : String} (h : Runs (accepts text) p true p') :
    ∃ cs, Spaced false text.toList cs ∧ p.rest = cs ++ p'.rest := by
  unfold accepts at h
  simp only [runs_bind, runs_progress] at h
  obtain ⟨q, q', ⟨rfl, rfl⟩, h⟩ := h
  split at h
  · next cs hfold =>
    obtain ⟨text', htext, hrest⟩ := spaced_of_foldl hfold
    exact ⟨text', htext, by grind⟩
  · grind

/-- A text that is not accepted is left where it is. -/
theorem eq_of_accepts_false {text : String} (h : Runs (accepts text) p false p') : p' = p := by
  unfold accepts at h
  grind

/-- What is expected is there, or else there is no result. -/
theorem spaced_of_expect {text : String} {u : Unit} (h : Runs (expect text) p u p') :
    ∃ cs, Spaced false text.toList cs ∧ p.rest = cs ++ p'.rest := by
  unfold expect at h
  simp only [runs_bind] at h
  obtain ⟨found, q, haccepts, h⟩ := h
  cases found with
  | true =>
      obtain ⟨-, rfl⟩ := runs_pure.mp h
      exact spaced_of_accepts haccepts
  | false => grind

/-- The characters that are taken are there, with the blanks before what comes next. -/
theorem spaced_of_takeWhile {wanted : Char → Bool} {cs : List Char}
    (h : Runs (takeWhile wanted) p cs p') (hrest : p'.rest ≠ []) :
    (∀ c ∈ cs, wanted c = true) ∧ ∃ text, Spaced false cs text ∧ p.rest = text ++ p'.rest := by
  unfold takeWhile at h
  simp only [runs_bind, runs_progress] at h
  obtain ⟨q, q', ⟨rfl, rfl⟩, h⟩ := h
  split at h
  · simp only [runs_bind, runs_goTo, runs_pure] at h
    obtain ⟨-, q, rfl, rfl, rfl⟩ := h
    exact ⟨forall_of_takeSkipping, spaced_of_takeSkipping hrest⟩
  · simp only [runs_bind, runs_goTo, runs_pure] at h
    obtain ⟨-, q, rfl, rfl, rfl⟩ := h
    refine ⟨List.all_eq_true.mp List.all_takeWhile, _, spaced_refl _, ?_⟩
    exact (List.prefix_iff_eq_append.mp (List.takeWhile_prefix wanted)).symm

end

/-! ## Characters, names and numbers -/

section

variable {p p' : Progress}

@[grind →]
theorem leaves_next {c : Option Char} (h : Runs next p c p') : Leaves p.rest p'.rest := by
  unfold next at h
  grind

@[grind →]
theorem leaves_nextRaw {c : Option Char} (h : Runs nextRaw p c p') : Leaves p.rest p'.rest := by
  unfold nextRaw at h
  grind

/-- A text is taken as a whole or not at all. -/
@[grind →]
theorem leaves_accepts {text : String} {found : Bool} (h : Runs (accepts text) p found p') :
    Leaves p.rest p'.rest := by
  cases found with
  | true =>
      obtain ⟨cs, -, hrest⟩ := spaced_of_accepts h
      rw [hrest]
      exact List.suffix_append ..
  | false =>
      rw [eq_of_accepts_false h]
      exact .refl _

@[grind →]
theorem leaves_expect {text : String} {u : Unit} (h : Runs (expect text) p u p') :
    Leaves p.rest p'.rest := by
  unfold expect at h
  grind

@[grind →]
theorem leaves_takeWhile {wanted : Char → Bool} {cs : List Char}
    (h : Runs (takeWhile wanted) p cs p') : Leaves p.rest p'.rest := by
  unfold takeWhile at h
  grind

@[grind →]
theorem leaves_takeRaw {wanted : Char → Bool} {cs : List Char} (h : Runs (takeRaw wanted) p cs p') :
    Leaves p.rest p'.rest := by
  unfold takeRaw at h
  grind

/-- The characters of a number have been taken before it is read. -/
@[grind →]
theorem leaves_number {cs : List Char} {n : Nat} (h : Runs (number cs) p n p') : p' = p := by
  unfold number at h
  grind

/-- A group gets its number without a character being taken. -/
@[grind →]
theorem leaves_openGroup {name : Option String} {k : Nat} (h : Runs (openGroup name) p k p') :
    p'.rest = p.rest := by
  unfold openGroup at h
  grind

/-- The name of a group is taken up to the character that ends it. -/
@[grind →]
theorem leaves_groupName {allowNumber : Bool} {name : List Char}
    (h : Runs (groupName allowNumber) p name p') : Leaves p.rest p'.rest := by
  unfold groupName at h
  grind

/-- The number of a group is looked up, and nothing is taken for it. -/
@[grind →]
theorem leaves_groupNumber {w : Whole} {name : List Char} {k : Nat}
    (h : Runs (groupNumber w name) p k p') : p' = p := by
  unfold groupNumber at h
  grind

/-- So is whether the group is still open. -/
@[grind →]
theorem leaves_isOpen {name : List Char} {found : Bool} (h : Runs (isOpen name) p found p') :
    p' = p := by
  unfold isOpen at h
  grind

end

/-! ## Escapes -/

section

variable {p p' : Progress} {w : Whole} {inSet positive : Bool} {e : Escaped} {n : Node} {c : Char}

/-- The code of an escaped character has been read before. -/
@[grind →]
theorem leaves_charEscape {code : Nat} (h : Runs (charEscape inSet code) p e p') : p' = p := by
  unfold charEscape at h
  grind

/-- The flags tell whether a class is that of ASCII only. -/
@[grind →]
theorem leaves_classScope {ascii : Bool} (h : Runs (classScope w) p ascii p') : p' = p := by
  unfold classScope at h
  grind

/-- There are as many digits as are wanted, or else there is no result. -/
@[grind →]
theorem leaves_hexDigits {value count code : Nat} (h : Runs (hexDigits value count) p code p') :
    Leaves p.rest p'.rest := by
  induction count generalizing value p with
  | zero =>
      unfold hexDigits at h
      grind
  | succ count ih =>
      unfold hexDigits at h
      grind

@[grind →]
theorem leaves_hexEscape {count : Nat} (h : Runs (hexEscape inSet count) p e p') :
    Leaves p.rest p'.rest := by
  unfold hexEscape at h
  grind

/-- There may be fewer digits than there is room for. -/
@[grind →]
theorem leaves_octalDigits {value room code : Nat} (h : Runs (octalDigits value room) p code p') :
    Leaves p.rest p'.rest := by
  induction room generalizing value p with
  | zero =>
      unfold octalDigits at h
      grind
  | succ room ih =>
      unfold octalDigits at h
      grind

/-- The name of the group has been taken before it is referred to. -/
@[grind →]
theorem leaves_reference {name : List Char} (h : Runs (reference w name) p n p') : p' = p := by
  unfold reference at h
  grind

@[grind →]
theorem leaves_toGroup {digits : List Char} (h : Runs (digitEscape.toGroup w digits) p e p') :
    p' = p := by
  unfold digitEscape.toGroup at h
  grind

/-- A digit may begin an octal code or the number of a group, and the digits after it are taken
accordingly. -/
@[grind →]
theorem leaves_digitEscape (h : Runs (digitEscape w inSet c) p e p') : Leaves p.rest p'.rest := by
  unfold digitEscape at h
  split at h
  · grind
  · simp only [runs_bind, runs_rest] at h
    obtain ⟨before, p₁, ⟨rfl, rfl⟩, second, p₂, hsecond, h⟩ := h
    split at h
    · grind
    · simp only [runs_bind, runs_rest] at h
      obtain ⟨before', p₃, ⟨rfl, rfl⟩, third, p₄, hthird, h⟩ := h
      grind

@[grind →]
theorem leaves_namedReference (h : Runs (namedReference w) p n p') : Leaves p.rest p'.rest := by
  unfold namedReference at h
  grind

@[grind →]
theorem leaves_nameEscape (h : Runs (nameEscape inSet) p e p') : Leaves p.rest p'.rest := by
  unfold nameEscape at h
  grind

/-- The name of a property may come with that of the trait before it. -/
@[grind →]
theorem leaves_propertyName {names : Option (List Char) × List Char}
    (h : Runs propertyName p names p') : Leaves p.rest p'.rest := by
  unfold propertyName at h
  grind

/-- A property is looked up by names that have been taken before. -/
@[grind →]
theorem leaves_property {bracketed : Bool} {trait : Option (List Char)} {name : List Char}
    {q : Property} (h : Runs (property bracketed trait name) p q p') : p' = p := by
  unfold property at h
  grind

/-- If no property follows, the letter stands for itself and what is left is gone back to. -/
@[grind →]
theorem leaves_propertyEscape (h : Runs (propertyEscape w inSet positive) p e p') :
    Leaves p.rest p'.rest := by
  unfold propertyEscape at h
  simp only [runs_bind, runs_rest, runs_flags] at h
  obtain ⟨before, p₁, ⟨rfl, rfl⟩, f, p₂, ⟨rfl, rfl⟩, first, p₃, hfirst, h⟩ := h
  split at h <;> grind

@[grind →]
theorem leaves_letterEscape (h : Runs (letterEscape w inSet c) p e p') :
    Leaves p.rest p'.rest := by
  unfold letterEscape at h
  simp only [runs_bind, runs_flags] at h
  obtain ⟨ascii, p₁, hascii, f, p₂, ⟨rfl, rfl⟩, h⟩ := h
  split at h <;> grind

/-- Whatever is escaped, its characters are taken from the front. -/
@[grind →]
theorem leaves_escape (h : Runs (escape w inSet) p e p') : Leaves p.rest p'.rest := by
  unfold escape at h
  simp only [runs_bind] at h
  obtain ⟨c?, p₁, hnext, h⟩ := h
  cases c? with
  | none => grind
  | some c =>
      simp only at h
      split at h
      · grind
      · split at h
        · grind
        · split at h <;> grind

end

/-! ## Sets in brackets -/

section

variable {p p' : Progress} {w : Whole} {b : Bracketed}

/-- A named class in brackets is taken with its brackets or not at all. -/
@[grind →]
theorem leaves_namedClass {b : Option Bracketed} (h : Runs (namedClass w) p b p') :
    Leaves p.rest p'.rest := by
  unfold namedClass at h
  grind

@[grind →]
theorem leaves_escapedSet (h : Runs (escapedSet w) p b p') : Leaves p.rest p'.rest := by
  unfold escapedSet at h
  grind

/-- Trying several things one after the other. -/
theorem leaves_forIn {ι σ : Type} {r : List Char} {body : ι → σ → Reading (ForInStep σ)}
    (hbody : ∀ i s p x p', Runs (body i s) p x p' → Leaves r p.rest → Leaves r p'.rest)
    {items : List ι} {s out : σ} (h : Runs (forIn items s body) p out p') (hp : Leaves r p.rest) :
    Leaves r p'.rest := by
  induction items generalizing s p with
  | nil =>
      rw [List.forIn_nil] at h
      grind
  | cons i items ih =>
      rw [List.forIn_cons, runs_bind] at h
      obtain ⟨step, q, hstep, h⟩ := h
      have hq := hbody i s p step q hstep hp
      cases step with
      | done out' => grind
      | yield s' => exact ih h hq

/-- To look for an operator of sets, its signs are tried in turn. -/
@[grind →]
theorem leaves_atOperator {found : Bool} (h : Runs atOperator p found p') :
    Leaves p.rest p'.rest := by
  unfold atOperator at h
  simp only [runs_bind, runs_rest] at h
  obtain ⟨before, p₁, ⟨rfl, rfl⟩, found', p₂, hloop, h⟩ := h
  have hleaves := leaves_forIn (fun i s q x q' hbody hq => by grind) hloop (.refl p.rest)
  grind

/-- What is taken by reading of which nothing more is known. -/
def Takes {α : Type} (reading : Reading α) : Prop :=
  ∀ p a p', Runs reading p a p' → Leaves p.rest p'.rest

/-- Operands with the same sign between them are taken one by one. -/
theorem leaves_operands {sign : String} {operand : Reading Bracketed} (ho : Takes operand)
    {fuel : Nat} {bs : List Bracketed} (h : Runs (operands sign operand fuel) p bs p') :
    Leaves p.rest p'.rest := by
  unfold Takes at ho
  induction fuel generalizing p bs with
  | zero =>
      unfold operands at h
      grind
  | succ fuel ih =>
      unfold operands at h
      grind

/-- Operators bind by their order: an operand of one is an operation with those after it. -/
theorem leaves_operation {operand : Reading Bracketed} (ho : Takes operand) {fuel : Nat}
    (ops : List (String × SetOperator)) : Takes (operation fuel operand ops) := by
  induction ops with
  | nil => exact ho
  | cons op ops ih =>
      intro p b p' h
      unfold operation at h
      simp only [runs_bind] at h
      obtain ⟨first, q, hfirst, others, q', hothers, h⟩ := h
      have hleaves := leaves_operands ih hothers
      have hleaves' := ih _ _ _ hfirst
      grind

/-- The functions that read sets take characters from the front. -/
structure SetsTake (w : Whole) (fuel : Nat) : Prop where
  item : Takes (setItem w fuel)
  member : Takes (setMember w fuel)
  union : Takes (setUnion w fuel)
  members : Takes (setMembers w fuel)

/-- Members of sets are read by functions that call each other, so that all of them are dealt with
at once, by the fuel. -/
theorem setsTake (w : Whole) (fuel : Nat) : SetsTake w fuel := by
  induction fuel with
  | zero =>
      constructor <;> intro p a p' h
      · unfold setItem at h
        grind
      · unfold setMember at h
        grind
      · unfold setUnion at h
        grind
      · unfold setMembers at h
        grind
  | succ fuel ih =>
      obtain ⟨item, member, union, members⟩ := ih
      have operation : Takes (operation fuel (setUnion w fuel) operators) :=
        leaves_operation union operators
      unfold Takes at item member union members operation
      constructor <;> intro p a p' h
      · unfold setItem at h
        simp only [runs_bind] at h
        obtain ⟨isEscape, p₁, hescape, h⟩ := h
        split at h
        · grind
        · simp only [runs_bind, runs_rest] at h
          obtain ⟨before, p₂, ⟨rfl, rfl⟩, isNamed, p₃, hnamed, h⟩ := h
          split at h
          · simp only [runs_bind] at h
            obtain ⟨b?, p₄, hclass, h⟩ := h
            cases b? <;> grind
          · grind
      · unfold setMember at h
        simp only [runs_bind] at h
        obtain ⟨first, p₁, hfirst, h⟩ := h
        split at h
        · grind
        · simp only [runs_bind, runs_rest] at h
          obtain ⟨before, p₂, ⟨rfl, rfl⟩, isHyphen, p₃, hhyphen, h⟩ := h
          split at h
          · grind
          · simp only [runs_bind, runs_flags] at h
            obtain ⟨f, p₄, ⟨rfl, rfl⟩, h⟩ := h
            split at h <;> grind
      · unfold setUnion at h
        grind
      · unfold setMembers at h
        grind

@[grind →]
theorem leaves_setUnion {fuel : Nat} (h : Runs (setUnion w fuel) p b p') :
    Leaves p.rest p'.rest :=
  (setsTake w fuel).union p b p' h

@[grind →]
theorem leaves_setOperation {fuel fuel' : Nat} {ops : List (String × SetOperator)}
    (h : Runs (operation fuel (setUnion w fuel') ops) p b p') : Leaves p.rest p'.rest :=
  leaves_operation (setsTake w fuel').union ops p b p' h

/-- In brackets blanks count, which changes the flags and not what is left. -/
@[grind →]
theorem leaves_withBlanks {α : Type} {reading : Reading α} {a : α}
    (h : Runs (withBlanks reading) p a p') :
    ∃ q q', Runs reading q a q' ∧ q.rest = p.rest ∧ p'.rest = q'.rest := by
  unfold withBlanks at h
  grind

/-- A set in brackets is taken from the front. -/
@[grind →]
theorem leaves_bracketed {part : Part} (h : Runs (bracketed w) p part p') :
    Leaves p.rest p'.rest := by
  unfold bracketed at h
  simp only [runs_bind] at h
  obtain ⟨f, p₁, hf, b, p₂, hb, h⟩ := h
  obtain ⟨q, q', hb, hq, hq'⟩ := leaves_withBlanks hb
  simp only [runs_bind] at hb
  grind

end

/-! ## Quantifiers and tolerances -/

section

variable {p p' : Progress} {w : Whole} {r r' : Written} {n : Nat}

/-- Limits in braces are taken as a whole, and otherwise the brace stands for itself. -/
@[grind →]
theorem leaves_limits {b : Option Bounds} (h : Runs limits p b p') : Leaves p.rest p'.rest := by
  unfold limits at h
  simp only [runs_bind, runs_rest] at h
  obtain ⟨before, p₁, ⟨rfl, rfl⟩, first, p₂, hfirst, hasComma, p₃, hcomma, h⟩ := h
  split at h
  · simp only [runs_bind] at h
    obtain ⟨second, p₄, hsecond, h⟩ := h
    split at h
    · simp only [runs_bind] at h
      obtain ⟨least, p₅, hleast, h⟩ := h
      split at h <;> grind
    · simp only [runs_bind] at h
      obtain ⟨least, p₅, hleast, h⟩ := h
      split at h <;> grind
  · grind

@[grind →]
theorem leaves_quantifier {c : Char} {b : Option Bounds} (h : Runs (quantifier c) p b p') :
    Leaves p.rest p'.rest := by
  unfold quantifier at h
  grind

/-- A mark behind a quantifier is taken if there is one. -/
@[grind →]
theorem leaves_preference {prefer : Preference} (h : Runs preference p prefer p') :
    Leaves p.rest p'.rest := by
  unfold preference at h
  grind

/-- The quantifiers without an upper bound. -/
inductive Unbounded : List Char → Prop
  | star : Unbounded ['*']
  | plus : Unbounded ['+']
  | least {digits : List Char} (h : ∀ d ∈ digits, isAsciiDigit d = true) :
      Unbounded ('\x7b' :: (digits ++ [',', '\x7d']))

/-- A quantifier without an upper bound as it is written, maybe with blanks in it. -/
inductive Repeats : List Char → Prop
  | written {c : Char} {word text : List Char} (h : Unbounded (c :: word))
      (htext : Spaced false word text) : Repeats (c :: text)

/-- The mark that may follow a quantifier. -/
inductive Mark : List Char → Prop
  | none : Mark []
  | written {blanks : List Char} {m : Char} (hm : m = '?' ∨ m = '+')
      (hblanks : Spaced false [] blanks) : Mark (blanks ++ [m])

/-- Limits without a greatest number are written as such, maybe with blanks in them. -/
theorem spaced_of_limits {b : Bounds} (h : Runs limits p (some b) p') (hb : b.greatest = none) :
    ∃ digits text, (∀ d ∈ digits, isAsciiDigit d = true) ∧
      Spaced false (digits ++ [',', '\x7d']) text ∧ p.rest = text ++ p'.rest := by
  unfold limits at h
  simp only [runs_bind, runs_rest] at h
  obtain ⟨before, p₁, ⟨rfl, rfl⟩, digits, p₂, hdigits, hasComma, p₃, hcomma, h⟩ := h
  cases hasComma with
  | false => exfalso; grind
  | true =>
      simp only [if_true, runs_bind] at h
      obtain ⟨second, p₄, hsecond, h⟩ := h
      have hclose : second = [] ∧ Runs (accepts "\x7d") p₄ true p' := by
        split at h
        · simp only [runs_bind, runs_pure] at h
          obtain ⟨least, p₅, ⟨rfl, rfl⟩, h⟩ := h
          split at h <;> grind
        · simp only [runs_bind] at h
          obtain ⟨least, p₅, hleast, h⟩ := h
          split at h <;> grind
      obtain ⟨rfl, hclose⟩ := hclose
      obtain ⟨ending, hending, hrest₄⟩ := spaced_of_accepts hclose
      have hnonempty : p₄.rest ≠ [] := by
        rw [hrest₄]
        exact List.append_ne_nil_of_left_ne_nil hending.ne_nil _
      obtain ⟨-, blanks, hblanks, hrest₃⟩ := spaced_of_takeWhile hsecond hnonempty
      obtain ⟨comma, hcomma, hrest₂⟩ := spaced_of_accepts hcomma
      have hnonempty' : p₂.rest ≠ [] := by
        rw [hrest₂]
        exact List.append_ne_nil_of_left_ne_nil hcomma.ne_nil _
      obtain ⟨hall, text, htext, hrest₁⟩ := spaced_of_takeWhile hdigits hnonempty'
      refine ⟨digits, text ++ (comma ++ (blanks ++ ending)), hall,
        htext.append (hcomma.append (hblanks.append hending)), ?_⟩
      rw [hrest₁, hrest₂, hrest₃, hrest₄]
      simp only [List.append_assoc]

/-- A quantifier without an upper bound is written as one. -/
theorem repeats_of_quantifier {c : Char} {b : Bounds} (h : Runs (quantifier c) p (some b) p')
    (hb : b.greatest = none) (hc : c ∈ ['?', '*', '+', '\x7b']) :
    ∃ text, Repeats (c :: text) ∧ p.rest = text ++ p'.rest := by
  have hcases : c = '*' ∧ p = p' ∨ c = '+' ∧ p = p' ∨ c = '\x7b' ∧ Runs limits p (some b) p' := by
    unfold quantifier at h
    simp only [List.mem_cons, List.not_mem_nil, or_false] at hc
    grind
  rcases hcases with ⟨rfl, rfl⟩ | ⟨rfl, rfl⟩ | ⟨rfl, hlimits⟩
  · exact ⟨[], .written .star .nil, rfl⟩
  · exact ⟨[], .written .plus .nil, rfl⟩
  · obtain ⟨digits, text, hdigits, htext, hrest⟩ := spaced_of_limits hlimits hb
    exact ⟨text, .written (.least hdigits) htext, hrest⟩

/-- What is taken behind a quantifier is a mark or nothing. -/
theorem mark_of_preference {prefer : Preference} (h : Runs preference p prefer p') :
    ∃ mark, Mark mark ∧ p.rest = mark ++ p'.rest := by
  unfold preference at h
  simp only [runs_bind, runs_rest] at h
  obtain ⟨before, p₁, ⟨rfl, rfl⟩, c?, p₂, hnext, h⟩ := h
  have hmark : ∀ m, m = '?' ∨ m = '+' → c? = some m → p₂ = p' →
      ∃ mark, Mark mark ∧ p.rest = mark ++ p'.rest := by
    rintro m hm rfl rfl
    obtain ⟨blanks, hblanks, hrest⟩ := spaced_of_next hnext
    exact ⟨blanks ++ [m], .written hm hblanks, by rw [hrest, List.append_assoc]; rfl⟩
  split at h
  · exact hmark '?' (.inl rfl) rfl (runs_pure.mp h).2
  · exact hmark '+' (.inr rfl) rfl (runs_pure.mp h).2
  · exact ⟨[], .none, by grind⟩

@[grind →]
theorem leaves_errorCount (h : Runs errorCount p n p') : Leaves p.rest p'.rest := by
  unfold errorCount at h
  grind

@[grind →]
theorem leaves_comparison {inclusive : Option Bool} (h : Runs comparison p inclusive p') :
    Leaves p.rest p'.rest := by
  unfold comparison at h
  grind

/-- The kind of an error is told by a character that has been taken. -/
@[grind →]
theorem leaves_errorKind {c : Option Char} {k : Char} (h : Runs (errorKind r c) p k p') :
    p' = p := by
  unfold errorKind at h
  grind

/-- The bounds of a number of errors have the kind of error between them or before them. -/
@[grind →]
theorem leaves_errorBounds (h : Runs (errorBounds r) p r' p') : Leaves p.rest p'.rest := by
  unfold errorBounds at h
  simp only [runs_bind, runs_rest] at h
  obtain ⟨before, p₁, ⟨rfl, rfl⟩, c?, p₂, hnext, h⟩ := h
  cases c? with
  | none => grind
  | some c =>
      simp only at h
      split at h
      · grind
      · split at h
        · simp only [runs_bind] at h
          obtain ⟨u, p₃, hgo, least, p₄, hleast, low?, p₅, hlow, h⟩ := h
          cases low? with
          | none => grind
          | some low =>
              simp only [runs_bind] at h
              obtain ⟨c?, p₆, hnext', k, p₇, hkind, high?, p₈, hhigh, h⟩ := h
              cases high? <;> grind
        · grind

/-- The costs of errors are added up term by term. -/
@[grind →]
theorem leaves_costTerms {fuel : Nat} {costs costs' : List (Char × Nat)}
    (h : Runs (costTerms costs fuel) p costs' p') : Leaves p.rest p'.rest := by
  induction fuel generalizing p costs with
  | zero =>
      unfold costTerms at h
      grind
  | succ fuel ih =>
      unfold costTerms at h
      grind

@[grind →]
theorem leaves_costBound (h : Runs (costBound r) p r' p') : Leaves p.rest p'.rest := by
  unfold costBound at h
  grind

/-- The items of a tolerance are taken one by one. -/
@[grind →]
theorem leaves_errorItems {fuel : Nat} (h : Runs (errorItems r fuel) p r' p') :
    Leaves p.rest p'.rest := by
  induction fuel generalizing p r with
  | zero =>
      unfold errorItems at h
      grind
  | succ fuel ih =>
      unfold errorItems at h
      grind

@[grind →]
theorem leaves_errorChars {mode : CaseMode} {set : CharSet} (h : Runs (errorChars w mode) p set p') :
    Leaves p.rest p'.rest := by
  unfold errorChars at h
  grind

/-- A tolerance in braces is taken as a whole or not at all. -/
@[grind →]
theorem leaves_tolerance {mode : CaseMode} {t : Option Tolerance}
    (h : Runs (tolerance w mode) p t p') : Leaves p.rest p'.rest := by
  unfold tolerance at h
  simp only [runs_bind] at h
  obtain ⟨r?, p₁, hitems, h⟩ := h
  have htaken : Leaves p.rest p₁.rest := by grind
  cases r? <;> grind

end

/-! ## Flags and what stands in parentheses alone -/

section

variable {p p' : Progress} {w : Whole} {n : Node}

/-- The letters of flags are taken as long as there are any. -/
@[grind →]
theorem leaves_flagLetters {fuel : Nat} {f f' : Flags} (h : Runs (flagLetters f fuel) p f' p') :
    Leaves p.rest p'.rest := by
  induction fuel generalizing p f with
  | zero =>
      unfold flagLetters at h
      grind
  | succ fuel ih =>
      unfold flagLetters at h
      simp only [runs_bind, runs_rest] at h
      obtain ⟨before, p₁, ⟨rfl, rfl⟩, c?, p₂, hnext, h⟩ := h
      split at h
      · simp only [runs_bind] at h
        obtain ⟨d?, p₃, hnext', h⟩ := h
        split at h <;> grind
      · grind

@[grind →]
theorem leaves_flagChange {whole : Flags} {changes : Flags × Flags}
    (h : Runs (flagChange whole) p changes p') : Leaves p.rest p'.rest := by
  unfold flagChange at h
  grind

/-- A comment is taken up to its parenthesis. -/
@[grind →]
theorem leaves_comment {fuel : Nat} {u : Unit} (h : Runs (comment fuel) p u p') :
    Leaves p.rest p'.rest := by
  induction fuel generalizing p with
  | zero =>
      unfold comment at h
      grind
  | succ fuel ih =>
      unfold comment at h
      grind

/-- The group that is called is known, and nothing is taken for it. -/
@[grind →]
theorem leaves_callOf {k : Nat} (h : Runs (callOf w k) p n p') : p' = p := by
  unfold callOf at h
  grind

/-- The digits of the number are taken. -/
@[grind →]
theorem leaves_numberedCall {c : Char} (h : Runs (numberedCall w c) p n p') :
    Leaves p.rest p'.rest := by
  unfold numberedCall at h
  grind

/-- So they are where groups are counted from here. -/
@[grind →]
theorem leaves_relativeCall {forward : Bool} (h : Runs (relativeCall w forward) p n p') :
    Leaves p.rest p'.rest := by
  unfold relativeCall at h
  grind

@[grind →]
theorem leaves_namedCall (h : Runs (namedCall w) p n p') : Leaves p.rest p'.rest := by
  unfold namedCall at h
  grind

@[grind →]
theorem leaves_extendedReference (h : Runs (extendedReference w) p n p') :
    Leaves p.rest p'.rest := by
  unfold extendedReference at h
  grind

/-- The name of the group that is asked for has been taken before. -/
@[grind →]
theorem leaves_conditionGroup {name : List Char} {k : Nat}
    (h : Runs (conditionGroup w name) p k p') : p' = p := by
  unfold conditionGroup at h
  grind

end

end SourceAudit.Pattern.Reader
