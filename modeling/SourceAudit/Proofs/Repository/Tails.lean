import SourceAudit.Proofs.Repository.Hosts

/-!
# SourceAudit.Proofs.Repository.Tails

Queries and fragments at the end of an address.

* `ofRest?_append`, `afterSshStart?_append_tail`, `hasSchemeMark_append_tail` — what each reader
  makes of a tail;
* `ofAddress?_append` — a tail does not count, unless it says `://` and the address does not;
* `resolve_append` — the same for all texts.
-/

namespace SourceAudit.Repository

open Text

/-- The start of a query or of a fragment. -/
def startsTail (c : Char) : Bool := c == '?' || c == '#'

section

variable {cs tail rest : List Char} {c : Char} {r : Repository}

theorem endsAuthority_of_startsTail (h : startsTail c = true) : endsAuthority c = true := by
  simp only [startsTail, Bool.or_eq_true] at h
  simpa [endsAuthority, or_assoc] using Or.inr h

/-- **What follows the path of a page does not count.** -/
theorem ofRest?_append (h : startsTail c = true) :
    ofRest? (rest ++ c :: tail) = ofRest? rest := by
  have hauthority : (rest ++ c :: tail).takeWhile (fun c => !endsAuthority c) =
      rest.takeWhile fun c => !endsAuthority c :=
    takeWhile_append_of_head (by simp [endsAuthority_of_startsTail h])
  have hlength : (rest.takeWhile fun c => !endsAuthority c).length ≤ rest.length :=
    (List.takeWhile_prefix _).length_le
  have hpath : ∀ path : List Char, (path ++ c :: tail).takeWhile (fun c => c ≠ '?' && c ≠ '#') =
      path.takeWhile fun c => c ≠ '?' && c ≠ '#' := fun path => by
    refine takeWhile_append_of_head ?_
    simp only [startsTail, Bool.or_eq_true, beq_iff_eq] at h
    rcases h with rfl | rfl <;> simp
  simp only [ofRest?, hauthority, List.drop_append_of_le_length hlength, hpath]

/-- A text with a tail starts as an SSH address only if the text does. -/
theorem afterSshStart?_append_tail {letters : List Char}
    (hletters : ∀ l ∈ letters, isSshLetter l c = false) :
    afterSshStart? letters (cs ++ c :: tail) =
      (afterSshStart? letters cs).map (· ++ c :: tail) := by
  induction letters generalizing cs with
  | nil => rfl
  | cons l letters ih =>
      obtain ⟨hl, hrest⟩ := List.forall_mem_cons.mp hletters
      cases cs with
      | nil => simp [afterSshStart?, hl]
      | cons d cs =>
          rw [List.cons_append, afterSshStart?, afterSshStart?, ih hrest]
          split <;> rfl

/-- A scheme mark does not reach into a tail. -/
theorem hasSchemeMark_append_tail (h : startsTail c = true) :
    hasSchemeMark (cs ++ c :: tail) = (hasSchemeMark cs || hasSchemeMark (c :: tail)) := by
  fun_induction hasSchemeMark cs with
  | case1 => rfl
  | case2 d cs hmark ih =>
      rw [List.cons_append, hasSchemeMark, ih]
      -- The mark would begin in the text and end in the tail.
      rintro rest rfl hrest
      have hc : c ≠ '/' := by
        rintro rfl
        exact absurd h (by decide)
      rcases cs with _ | ⟨d, _ | ⟨e, cs⟩⟩
      · simp [hc] at hrest
      · simp [hc] at hrest
      · simp only [List.cons_append, List.cons.injEq] at hrest
        obtain ⟨rfl, rfl, -⟩ := hrest
        exact hmark cs rfl rfl
  | case3 => rfl

/-- An opening that is not empty has the mark of a scheme. -/
theorem hasSchemeMark_of_opening {opening : List Char} (h : Opening opening) (hne : opening ≠ [])
    (after : List Char) : hasSchemeMark (opening ++ after) = true := by
  cases h with
  | bare => exact absurd rfl hne
  | written controls letters hcontrols hletters =>
      rw [List.append_assoc]
      exact hasSchemeMark_append (controls ++ letters) after

/-- Nothing in an opening starts a tail. -/
theorem notMem_of_opening {opening : List Char} (h : Opening opening)
    (hc : startsTail c = true) : c ∉ opening := by
  have hmarks : ∀ c ∈ ['?', '#'], 0x20 < c.toNat ∧ isAsciiLetter c = false ∧ c ∉ "://".toList :=
    forall_of_all (by decide)
  obtain ⟨hcode, hletter, hmark⟩ := hmarks c (by simpa [startsTail] using hc)
  cases h with
  | bare => simp
  | written controls letters hcontrols hletters =>
      have hall : ∀ c ∈ letters, isAsciiLetter c = true := by
        rcases hletters with h | h <;> exact forall_of_map_lower (fun _ hc => hc) (by decide) h
      simp only [List.mem_append, not_or]
      refine ⟨⟨fun hmem => ?_, fun hmem => ?_⟩, hmark⟩
      · exact Nat.not_le_of_lt hcode (hcontrols c hmem)
      · simp [hall c hmem] at hletter

/-- An address does not open with a scheme that is first written in its tail. -/
theorem afterScheme?_of_tail (h : startsTail c = true) (hmark : hasSchemeMark cs = false) :
    afterScheme? (cs ++ c :: tail) = none := by
  cases hafter : afterScheme? (cs ++ c :: tail) with
  | none => rfl
  | some rest =>
      obtain ⟨opening, hopening, hne, hcut⟩ := afterScheme?_eq_some_iff.mp hafter
      have hwhole : ∀ as, cs ≠ opening ++ as := fun as heq => by
        rw [heq, hasSchemeMark_of_opening hopening hne] at hmark
        simp at hmark
      rcases List.append_eq_append_iff.mp hcut with ⟨as, hstart, htail⟩ | ⟨as, hcs, -⟩
      · cases as with
        | nil => exact absurd (by simpa using hstart.symm) (hwhole [])
        | cons a as =>
            obtain rfl := (List.cons.inj htail).1
            exact absurd (by simp [hstart]) (notMem_of_opening hopening h)
      · exact absurd hcs (hwhole as)

theorem ofRest?_nil : ofRest? [] = none := rfl

/-- **A tail does not count**, unless it says `://` and the address does not. -/
theorem ofAddress?_append (h : startsTail c = true) (hread : ofAddress? cs = some r) :
    ofAddress? (cs ++ c :: tail) =
      if hasSchemeMark (c :: tail) && !hasSchemeMark cs then none else some r := by
  have hmark : hasSchemeMark (cs ++ c :: tail) = (hasSchemeMark cs || hasSchemeMark (c :: tail)) :=
    hasSchemeMark_append_tail h
  cases hcs : hasSchemeMark cs with
  | true =>
      rw [hcs, Bool.true_or] at hmark
      rw [ofAddress?_of_mark hcs] at hread
      obtain ⟨rest, hrest, hr⟩ := Option.bind_eq_some_iff.mp hread
      obtain ⟨opening, hopening, hne, rfl⟩ := afterScheme?_eq_some_iff.mp hrest
      have hafter : afterScheme? (opening ++ rest ++ c :: tail) = some (rest ++ c :: tail) :=
        afterScheme?_eq_some_iff.mpr ⟨opening, hopening, hne, List.append_assoc _ _ _⟩
      rw [ofAddress?_of_mark hmark, hafter, Option.bind_some, ofRest?_append h, hr, Bool.not_true,
        Bool.and_false, if_neg Bool.false_ne_true]
  | false =>
      have hstart : cs.head?.any endsAuthority = false := by
        cases hstart : cs.head?.any endsAuthority with
        | false => rfl
        | true => simp [ofAddress?, hcs, hstart] at hread
      rw [ofAddress?_of_bare hcs hstart] at hread
      rw [hcs, Bool.false_or] at hmark
      rw [Bool.not_false, Bool.and_true]
      cases htail : hasSchemeMark (c :: tail) with
      | true =>
          rw [htail] at hmark
          rw [ofAddress?_of_mark hmark, afterScheme?_of_tail h hcs, Option.bind_none, if_pos rfl]
      | false =>
          rw [htail] at hmark
          have hstart' : (cs ++ c :: tail).head?.any endsAuthority = false := by
            cases cs with
            | nil => simp [ofRest?_nil] at hread
            | cons d cs => exact hstart
          rw [ofAddress?_of_bare hmark hstart', ofRest?_append h, hread,
            if_neg Bool.false_ne_true]

/-! ## All texts -/

/-- **Queries and fragments do not count**, unless they say `://` and the address has no scheme. -/
theorem resolve_append {j k whole : Json} {s t : String} (hs : j.text? = some s)
    (ht : k.text? = some t) (hwhole : j.append? k = some whole)
    (hblank : ∀ c ∈ s.toList, isBlank c = false) (hread : resolve j = some r)
    (hpage : ssh? s.toList = none) (hstart : t.toList.head?.any startsTail = true)
    (htail : ∀ c ∈ t.toList, isBlank c = false ∧ c ≠ '\\')
    (hlength : (s ++ t).length ≤ maxLocatorLength) :
    resolve whole =
      if hasSchemeMark t.toList && !hasSchemeMark s.toList then none else some r := by
  have htext : resolveText s = some r := by simpa [resolve, hs] using hread
  have hescape := notMem_of_resolveText htext
  have haddress := resolveText_eq_some htext
  rw [strip_of_forall hblank] at hescape haddress
  replace haddress : ofAddress? s.toList = some r := by simpa [hpage] using haddress
  obtain ⟨c, tail, hcons⟩ : ∃ c tail, t.toList = c :: tail := by
    cases hlist : t.toList with
    | nil => simp [hlist] at hstart
    | cons c tail => exact ⟨c, tail, rfl⟩
  have hc : startsTail c = true := by simpa [hcons] using hstart
  have hchars : ∀ d ∈ (s ++ t).toList, isBlank d = false ∧ d ≠ '\\' := by
    intro d hd
    rcases List.mem_append.mp (String.toList_append ▸ hd) with hd | hd
    · exact ⟨hblank d hd, fun heq => hescape (heq ▸ hd)⟩
    · exact htail d hd
  have hletters : ∀ l ∈ sshStart, isSshLetter l c = false := by
    simp only [startsTail, Bool.or_eq_true, beq_iff_eq] at hc
    rcases hc with rfl | rfl <;> exact forall_of_all (by decide)
  have hssh : ssh? (s ++ t).toList = none := by
    rw [ssh?, String.toList_append, hcons, afterSshStart?_append_tail hletters,
      afterSshStart?_of_page (ofAddress?_eq_some haddress).2]
    rfl
  rw [resolve_of_page (Json.text?_append hs ht hwhole) (by simp [hcons]) hchars hlength hssh,
    String.toList_append, hcons, ofAddress?_append hc haddress]

end

end SourceAudit.Repository

namespace SourceAudit.Sample

open Repository

/-- A query that ends in half a surrogate pair. -/
def halfTab : List Nat := "?tab=".toList.map Char.toNat ++ [0xD800]

theorem resolve_append_halfTab :
    resolve (.brokenStr ("GitHub.com/O/N/".toList.map Char.toNat ++ halfTab)) =
      some ⟨"o", "n", none⟩ := by
  have hread : resolve (.str "GitHub.com/O/N/") = some ⟨"o", "n", none⟩ := by decide +kernel
  have hmark : (hasSchemeMark "?tab=\uFFFD".toList && !hasSchemeMark "GitHub.com/O/N/".toList) =
      false := by
    decide +kernel
  have h := resolve_append (j := .str "GitHub.com/O/N/") (k := .brokenStr halfTab)
    (s := "GitHub.com/O/N/") (t := "?tab=\uFFFD") rfl (by decide +kernel) rfl
    (Text.forall_of_all (by decide +kernel)) hread (by decide +kernel) (by decide +kernel)
    (Text.forall_of_all (by decide +kernel)) (by decide +kernel)
  rwa [hmark, if_neg Bool.false_ne_true] at h

/-- An address in the query of another one hides it. -/
theorem addressInQuery_hides :
    resolve (.str "github.com/o/n") = some ⟨"o", "n", none⟩ ∧
      ssh? "github.com/o/n".toList = none ∧
        resolve (.str "github.com/o/n?next=http://x") = none := by
  decide +kernel

end SourceAudit.Sample
