import SourceAudit.Proofs.Pattern.Ascii
import SourceAudit.Proofs.Pattern.Words

/-!
# SourceAudit.Proofs.Pattern.Forms

Forms of tokens: one of some heads, and a number of characters of a few ranges after it. A form is
told without a pattern, and whether a pattern has the form can be computed from its tree.

* `HasForm.takes_iff` — a pattern with a form takes the texts that fit it;
* `words_of_isWordPattern` — a pattern that passes the computed test is one for whole words, and
  these are the words of the form.
-/

namespace SourceAudit.Pattern

open Line Text

/-- The form of a token. -/
structure TokenForm where
  /-- What a token may begin with. -/
  heads : List String
  /-- The ranges of the characters after the head. -/
  body : List (Char × Char)
  /-- How many characters follow the head. -/
  least : Nat
  most : Nat
deriving DecidableEq, Repr

namespace TokenForm

/-- Is the character in one of the ranges of the form? -/
def admits (form : TokenForm) (c : Char) : Bool :=
  form.body.any fun (first, last) => first ≤ c && c ≤ last

/-- The texts of a form. -/
def Fits (form : TokenForm) : Texts := fun t =>
  ∃ head ∈ form.heads, ∃ rest, t = head.toList ++ rest ∧
    form.least ≤ rest.length ∧ rest.length ≤ form.most ∧ ∀ c ∈ rest, form.admits c = true

/-- Are all tokens of the form words of ASCII characters, longer than what is masked whole? -/
def isLongWord (form : TokenForm) : Bool :=
  form.heads.all (fun head =>
    8 < head.toList.length + form.least && head.toList.all isAsciiWord) &&
  form.body.all (fun (_, last) => last.toNat < 128) &&
  (List.range 128).all fun n => !form.admits (Char.ofNat n) || isAsciiWord (Char.ofNat n)

end TokenForm

/-! ## Sets as ranges -/

namespace CharSet

/-- Is the set written down as single characters and ranges? -/
def isListed : CharSet → Bool
  | anyOf _ => true
  | range _ _ => true
  | union l r => l.isListed && r.isListed
  | _ => false

/-- The ranges of such a set. -/
def ranges : CharSet → List (Nat × Nat)
  | anyOf codes => codes.map fun c => (c, c)
  | range first last => [(first, last)]
  | union l r => l.ranges ++ r.ranges
  | _ => []

/-- A set that is listed contains what is in one of its ranges. -/
theorem contains_eq_any_ranges {s : CharSet} (h : s.isListed = true) (code : Nat) :
    s.contains code = s.ranges.any fun r => decide (r.1 ≤ code) && decide (code ≤ r.2) := by
  induction s with
  | anyOf codes =>
      rw [contains, ranges, List.any_map, List.contains_eq_any_beq]
      congr 1
      funext c
      rw [Bool.eq_iff_iff]
      simp
      omega
  | range first last => simp [contains, ranges]
  | union l r ihl ihr =>
      obtain ⟨hl, hr⟩ := Bool.and_eq_true_iff.mp h
      rw [contains, ranges, List.any_append, ihl hl, ihr hr]
  | _ => simp [isListed] at h

/-- The characters of a set without proper ranges. -/
def singles (s : CharSet) : List Char := s.ranges.map fun r => Char.ofNat r.1

/-- Does the set consist of single characters, each of which is one? -/
def isSingles (s : CharSet) : Bool :=
  s.isListed && s.ranges.all fun r => r.1 == r.2 && (Char.ofNat r.1).toNat == r.1

/-- A set of single characters contains just these. -/
theorem contains_iff_mem_singles {s : CharSet} (h : s.isSingles = true) (c : Char) :
    s.contains c.toNat = true ↔ c ∈ s.singles := by
  obtain ⟨hlisted, hall⟩ := Bool.and_eq_true_iff.mp h
  rw [contains_eq_any_ranges hlisted, singles, List.any_eq_true, List.mem_map]
  refine exists_congr fun r => and_congr_right fun hr => ?_
  have hone := List.all_eq_true.mp hall r hr
  simp only [Bool.and_eq_true, beq_iff_eq, decide_eq_true_eq] at hone ⊢
  rw [← Char.toNat_inj, hone.2]
  omega

end CharSet

/-! ## The heads of a pattern -/

namespace Node

/-- Does the pattern take finitely many texts, by its form alone? -/
def isFinite : Node → Bool
  | .one s => s.isSingles
  | .cat l r => l.isFinite && r.isFinite
  | .alt l r => l.isFinite && r.isFinite
  | _ => false

/-- The texts of such a pattern. -/
def listed : Node → List (List Char)
  | .one s => s.singles.map fun c => [c]
  | .cat l r => l.listed.flatMap fun u => r.listed.map (u ++ ·)
  | .alt l r => l.listed ++ r.listed
  | _ => []

/-- A pattern for finitely many texts takes those that are listed for it. -/
theorem takes_iff_mem_listed {n : Node} (h : n.isFinite = true) (t : List Char) :
    n.Takes t ↔ t ∈ n.listed := by
  induction n generalizing t with
  | one s =>
      simp only [Takes, listed, CharSet.contains_iff_mem_singles h, List.mem_map, and_comm,
        eq_comm]
  | cat l r ihl ihr =>
      obtain ⟨hl, hr⟩ := Bool.and_eq_true_iff.mp h
      simp only [Takes, listed, ihl hl, ihr hr, List.mem_flatMap, List.mem_map]
      constructor
      · rintro ⟨u, v, rfl, hu, hv⟩
        exact ⟨u, hu, v, hv, rfl⟩
      · rintro ⟨u, hu, v, hv, rfl⟩
        exact ⟨u, v, rfl, hu, hv⟩
  | alt l r ihl ihr =>
      obtain ⟨hl, hr⟩ := Bool.and_eq_true_iff.mp h
      simp only [Takes, listed, ihl hl, ihr hr, List.mem_append]
  | _ => simp [isFinite] at h

/-- The parts of a pattern that takes one of some heads and then repeats one character: the heads,
and what is repeated. -/
def stem? : Node → Option (List (List Char) × CharSet × Bounds)
  | .loop bounds _ (.one s) => some ([[]], s, bounds)
  | .cat l r =>
    if l.isFinite then
      r.stem?.map fun (heads, s, bounds) =>
        (l.listed.flatMap fun u => heads.map (u ++ ·), s, bounds)
    else none
  | _ => none

/-- A stem takes one of its heads, followed by as many characters of its set as its bounds admit. -/
theorem takes_iff_of_stem? {n : Node} {heads : List (List Char)} {s : CharSet} {bounds : Bounds}
    (h : n.stem? = some (heads, s, bounds)) (t : List Char) :
    n.Takes t ↔ ∃ head ∈ heads, ∃ rest, t = head ++ rest ∧ bounds.Admit rest.length ∧
      ∀ c ∈ rest, s.contains c.toNat = true := by
  induction n generalizing heads t with
  | cat l r ihl ihr =>
      unfold stem? at h
      split at h
      · next hfinite =>
        obtain ⟨⟨heads', s', bounds'⟩, hr, heq⟩ := Option.map_eq_some_iff.mp h
        simp only [Prod.mk.injEq] at heq
        obtain ⟨rfl, rfl, rfl⟩ := heq
        simp only [Takes, takes_iff_mem_listed hfinite, ihr hr, List.mem_flatMap, List.mem_map]
        constructor
        · rintro ⟨u, v, rfl, hu, head, hhead, rest, rfl, hrest⟩
          exact ⟨_, ⟨u, hu, head, hhead, rfl⟩, rest, (List.append_assoc ..).symm, hrest⟩
        · rintro ⟨_, ⟨u, hu, head, hhead, rfl⟩, rest, rfl, hrest⟩
          exact ⟨u, _, List.append_assoc .., hu, head, hhead, rest, rfl, hrest⟩
      · simp at h
  | loop bounds' fewest body ih =>
      cases body with
      | one s' =>
          simp only [stem?, Option.some.injEq, Prod.mk.injEq] at h
          obtain ⟨rfl, rfl, rfl⟩ := h
          simp [Takes]
      | _ => simp [stem?] at h
  | _ => simp [stem?] at h

end Node

/-! ## Patterns with a form -/

/-- Has a pattern a form, by its tree? -/
def Node.hasForm (n : Node) (form : TokenForm) : Bool :=
  match n.stem? with
  | some (heads, s, bounds) =>
    heads == form.heads.map String.toList && s.isListed &&
      s.ranges == form.body.map (fun (first, last) => (first.toNat, last.toNat)) &&
      bounds == ⟨form.least, some form.most⟩
  | none => false

/-- Is it a pattern for whole words of a form? -/
def isWordPattern (p : Pattern) (form : TokenForm) : Bool :=
  match p.root with
  | .cat (.assertion (.wordEdge false)) (.cat (.group 1 token) (.assertion (.wordEdge false))) =>
    token.isTextual && token.hasForm form && form.isLongWord && p.groups == 1 &&
      p.lead == p.root.lead? && p.direction == .forward && !p.longest &&
      decide (p.root.cost 1 ≤ Search.stepLimit)
  | _ => false

section

variable {form : TokenForm} {n : Node}

/-- **A pattern with a form takes the texts that fit it.** -/
theorem Node.takes_iff_fits (h : n.hasForm form = true) (t : List Char) :
    n.Takes t ↔ form.Fits t := by
  unfold hasForm at h
  split at h
  · next heads s bounds hstem =>
    simp only [Bool.and_eq_true, beq_iff_eq] at h
    obtain ⟨⟨⟨rfl, hlisted⟩, hranges⟩, rfl⟩ := h
    have hadmits : ∀ c : Char, s.contains c.toNat = form.admits c := by
      intro c
      rw [CharSet.contains_eq_any_ranges hlisted, hranges, List.any_map, TokenForm.admits]
      rfl
    rw [takes_iff_of_stem? hstem, TokenForm.Fits]
    simp only [List.mem_map, exists_exists_and_eq_and, hadmits, Bounds.Admit, Option.some.injEq,
      forall_eq', and_assoc]
  · simp at h

/-- What fits the form of a long word is one. -/
theorem TokenForm.Fits.long (hform : form.isLongWord = true) {t : List Char} (h : form.Fits t) :
    8 < t.length := by
  simp only [TokenForm.isLongWord, Bool.and_eq_true, List.all_eq_true, decide_eq_true_eq] at hform
  obtain ⟨head, hhead, rest, rfl, hleast, -, -⟩ := h
  have hlong := (hform.1.1 head hhead).1
  rw [List.length_append]
  omega

/-- A token of a form for long words is made of word characters. -/
theorem TokenForm.Fits.isWordCode (hform : form.isLongWord = true) {t : List Char}
    (h : form.Fits t) {c : Char} (hc : c ∈ t) : Subject.isWordCode false c.toNat = true := by
  have hword : ∀ c : Char, isAsciiWord c = true → Subject.isWordCode false c.toNat = true := by
    intro c hc
    have hlt : c.toNat < 128 := by
      by_contra hge
      have hlast : ∀ d : Char, d.toNat < 128 → ¬ c ≤ d := fun d hd hle => by
        have : c.toNat ≤ d.toNat := hle
        omega
      have hnot : c ≠ '_' := fun heq => hge (heq ▸ by decide)
      simp [isAsciiWord, isAsciiLetter, isAsciiDigit, hlast _ (show 'z'.toNat < 128 by decide),
        hlast _ (show 'Z'.toNat < 128 by decide), hlast _ (show '9'.toNat < 128 by decide),
        hnot] at hc
    rw [isWordCode_ascii hlt, Char.ofNat_toNat, hc]
  simp only [TokenForm.isLongWord, Bool.and_eq_true, List.all_eq_true, decide_eq_true_eq,
    Bool.or_eq_true, List.mem_range] at hform
  obtain ⟨⟨hheads, hranges⟩, hall⟩ := hform
  obtain ⟨head, hhead, rest, rfl, -, -, hrest⟩ := h
  rcases List.mem_append.mp hc with hc | hc
  · exact hword c ((hheads head hhead).2 c hc)
  · have hadmits := hrest c hc
    obtain ⟨r, hr, hin⟩ := List.any_eq_true.mp hadmits
    have hle : c.toNat ≤ r.2.toNat := by
      simp only [Bool.and_eq_true, decide_eq_true_eq] at hin
      exact hin.2
    have hlt : c.toNat < 128 := Nat.lt_of_le_of_lt hle (hranges r hr)
    have hchar := hall c.toNat hlt
    rw [Char.ofNat_toNat, hadmits] at hchar
    exact hword c (by simpa using hchar)

/-- **The computed test.** A pattern that passes it is one for whole words, and these are the words
of the form. -/
theorem words_of_isWordPattern {p : Pattern} (h : p.isWordPattern form = true) :
    ∃ token, p.Words token ∧ (∀ t, token.Takes t ↔ form.Fits t) ∧ form.isLongWord = true := by
  unfold isWordPattern at h
  split at h
  · next token hroot =>
    simp only [Bool.and_eq_true, beq_iff_eq, decide_eq_true_eq, Bool.not_eq_eq_eq_not,
      Bool.not_true] at h
    obtain ⟨⟨⟨⟨⟨⟨⟨htextual, hform⟩, hlong⟩, hgroups⟩, hlead⟩, hdirection⟩, hlongest⟩, hcost⟩ := h
    have htakes := Node.takes_iff_fits hform
    have hwords : AreWords token.Takes := by
      refine ⟨fun t ht hnil => ?_, fun t ht c hc => ?_⟩
      · have := ((htakes t).mp ht).long hlong
        simp [hnil] at this
      · exact ((htakes t).mp ht).isWordCode hlong hc
    rw [hroot] at hcost
    exact ⟨token, ⟨hroot, hgroups, hlead, hdirection, hlongest, htextual, hwords, hcost⟩, htakes,
      hlong⟩
  · simp at h

end

end SourceAudit.Pattern
