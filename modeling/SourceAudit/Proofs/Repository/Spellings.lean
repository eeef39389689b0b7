import SourceAudit.Proofs.Text.Cutting
import SourceAudit.Repository.Locator

/-!
# SourceAudit.Proofs.Repository.Spellings

The documented spellings of a repository all name it.

* `Spelling` — what they are: the address of its page, in which the scheme, the host and the ending
  of a clone address may have any case, with slashes and blanks around it, and the SSH address;
* `Intended.atPath?_path`, `ofAddress?_page`, `ssh?_append` — what is read of the parts of an
  address;
* `resolve_spelling` — each spelling is read as the one repository that is meant, with owner and
  name in lower case.

The parts of an address are told apart by a few marks: `:`, `@`, `/`, `?` and `#`. So the proofs
rest on which characters a part cannot have, whatever its case.
-/

namespace SourceAudit.Repository

open Text

/-! ## Spellings -/

/-- A repository to be named, and the segments of the version that is meant; none if it is not any
version in particular. -/
structure Intended where
  owner : List Char
  name : List Char
  ref : List (List Char)
  owner_valid : isOwner owner = true
  name_valid : isName name = true
  /-- The name itself does not end as a clone address does. -/
  not_clone : gitSuffix.isSuffixOf (name.map asciiLowerChar) = false
  ref_valid : ∀ segment ∈ ref, isRefSegment segment = true

namespace Intended

/-- What is meant. -/
def repository (t : Intended) : Repository where
  owner := .ofList (t.owner.map asciiLowerChar)
  name := .ofList (t.name.map asciiLowerChar)
  ref := if t.ref = [] then none else some (.ofList (joinPieces '/' t.ref))

/-- What follows the name in the address of a page. -/
def tail (t : Intended) : List Char :=
  if t.ref = [] then [] else "/tree/".toList ++ joinPieces '/' t.ref

end Intended

/-- The ending of a clone address in any case, or nothing. -/
def IsEnding (ending : List Char) : Prop := ending = [] ∨ ending.map asciiLowerChar = gitSuffix

/-- A scheme in any case, or nothing. -/
def IsScheme (scheme : List Char) : Prop :=
  scheme = [] ∨ scheme.map asciiLowerChar = "http://".toList ∨
    scheme.map asciiLowerChar = "https://".toList

/-- The documented spellings of a repository. Only the address of a page can name a version. -/
inductive Spelling (t : Intended) : List Char → Prop
  | page (before scheme host ending after : List Char) (slashes : Nat)
    (hbefore : ∀ c ∈ before, isBlank c = true) (hscheme : IsScheme scheme)
    (hhost : host.map asciiLowerChar ∈ hosts) (hending : IsEnding ending)
    (hafter : ∀ c ∈ after, isBlank c = true) :
    Spelling t (before ++ (scheme ++ host ++ '/' :: t.owner ++ '/' :: t.name ++ ending ++ t.tail ++
      List.replicate slashes '/') ++ after)
  | ssh (before ending after : List Char) (slashes : Nat)
    (hbefore : ∀ c ∈ before, isBlank c = true) (href : t.ref = []) (hending : IsEnding ending)
    (hslashes : slashes ≤ 1) (hafter : ∀ c ∈ after, isBlank c = true) :
    Spelling t (before ++ ("git@github.com:".toList ++ t.owner ++ '/' :: t.name ++ ending ++
      List.replicate slashes '/') ++ after)

/-! ## Characters -/

/-- A character that a spelling may have between the blanks around it. -/
def isPlain (c : Char) : Bool := isRefChar c || c == '/' || c == ':'

section

variable {p : Char → Bool} {c d : Char} {cs ds : List Char}

theorem not_isBlank_of_isPlain (h : isPlain c = true) : isBlank c = false :=
  not_isBlank_of_codes (by decide +kernel) h

/-- Characters of different kinds are different. -/
theorem ne_of_kind (h : p c = true) (hd : p d = false) : c ≠ d := by
  rintro rfl
  simp [h] at hd

theorem isPlain_of_isRefChar (h : isRefChar c = true) : isPlain c = true := by simp [isPlain, h]

/-- No control character and no space is plain. -/
theorem lt_toNat_of_isPlain (h : isPlain c = true) : 0x20 < c.toNat := by
  have hcodes : ∀ n ∈ List.range 0x21, isPlain (Char.ofNat n) = false := by decide +kernel
  refine Nat.lt_of_not_le fun hle => ?_
  rw [of_codes (P := fun c => isPlain c = false) hcodes
    (List.mem_range.mpr (Nat.lt_succ_of_le hle))] at h
  simp at h

/-- Lower case changes capital letters only. -/
theorem asciiLowerChar_eq_or_mem (c : Char) :
    asciiLowerChar c = c ∨ c.toNat ∈ List.range' 65 26 := by
  by_cases h : 'A' ≤ c ∧ c ≤ 'Z'
  · right
    obtain ⟨hlow, hhigh⟩ := h
    have hlow' : 65 ≤ c.toNat := hlow
    have hhigh' : c.toNat ≤ 90 := hhigh
    rw [List.mem_range'_1]
    omega
  · exact .inl (if_neg h)

/-- Lower case changes letters only, and into letters. -/
theorem asciiLowerChar_eq_or (c : Char) :
    asciiLowerChar c = c ∨ isAsciiLetter c = true ∧ isAsciiLetter (asciiLowerChar c) = true := by
  refine (asciiLowerChar_eq_or_mem c).imp_right fun hmem => ?_
  exact of_codes (P := fun c => isAsciiLetter c = true ∧ isAsciiLetter (asciiLowerChar c) = true)
    (by decide +kernel) hmem

/-- A set with all letters has a character if it has its lower case. -/
theorem of_lower (hletters : ∀ c, isAsciiLetter c = true → p c = true)
    (h : p (asciiLowerChar c) = true) : p c = true := by
  rcases asciiLowerChar_eq_or c with heq | ⟨hletter, -⟩
  · rwa [heq] at h
  · exact hletters c hletter

theorem forall_of_map_lower (hletters : ∀ c, isAsciiLetter c = true → p c = true)
    (hds : ds.all p = true) (h : cs.map asciiLowerChar = ds) : ∀ c ∈ cs, p c = true := by
  intro c hc
  refine of_lower hletters (List.all_eq_true.mp hds _ ?_)
  rw [← h]
  exact List.mem_map_of_mem hc

/-- Marks have no other case. -/
theorem eq_of_map_lower (hds : ds.any isAsciiLetter = false)
    (h : cs.map asciiLowerChar = ds) : cs = ds := by
  subst h
  have hsame : cs.map asciiLowerChar = cs.map id := List.map_congr_left fun c hc =>
    (asciiLowerChar_eq_or c).resolve_right fun hletter =>
      List.any_eq_false.mp hds _ (List.mem_map_of_mem hc) hletter.2
  rw [hsame, List.map_id]

theorem isRefChar_of_letter (c : Char) (h : isAsciiLetter c = true) : isRefChar c = true := by
  simp [isRefChar, isNameChar, isOwnerChar, h]

theorem isPlain_of_letter (c : Char) (h : isAsciiLetter c = true) : isPlain c = true :=
  isPlain_of_isRefChar (isRefChar_of_letter c h)

end

/-! ## Parts -/

/-- A part of an address: it is not empty and has none of the marks that tell parts apart. -/
structure IsPart (cs : List Char) : Prop where
  ne_nil : cs ≠ []
  chars : ∀ c ∈ cs, isRefChar c = true

/-- Owners, names and segments of versions are parts of a path. -/
theorem isPart_of_isOwner {cs : List Char} (h : isOwner cs = true) : IsPart cs := by
  simp only [isOwner, Bool.and_eq_true, List.all_eq_true] at h
  obtain ⟨⟨-, hchars⟩, hfirst⟩ := h
  refine ⟨?_, fun c hc => by simp [isRefChar, isNameChar, hchars c hc]⟩
  rintro rfl
  simp at hfirst

theorem isPart_of_isName {cs : List Char} (h : isName cs = true) : IsPart cs := by
  simp only [isName, Bool.and_eq_true, List.all_eq_true] at h
  obtain ⟨⟨⟨⟨-, hchars⟩, hsome⟩, -⟩, -⟩ := h
  refine ⟨?_, fun c hc => by simp [isRefChar, hchars c hc]⟩
  rintro rfl
  simp at hsome

theorem isPart_of_isRefSegment {cs : List Char} (h : isRefSegment cs = true) : IsPart cs := by
  simp only [isRefSegment, Bool.and_eq_true, List.all_eq_true] at h
  obtain ⟨⟨⟨⟨-, hchars⟩, hfirst⟩, -⟩, -⟩ := h
  refine ⟨?_, hchars⟩
  rintro rfl
  simp at hfirst

/-- A part stays one with more characters of versions. -/
theorem IsPart.append {cs ds : List Char} (h : IsPart cs) (hds : ∀ c ∈ ds, isRefChar c = true) :
    IsPart (cs ++ ds) := by
  refine ⟨by simp [h.ne_nil], fun c hc => ?_⟩
  exact (List.mem_append.mp hc).elim (h.chars c) (hds c)

/-- What is no character of versions is in no part. -/
theorem IsPart.notMem {cs : List Char} (h : IsPart cs) {d : Char} (hd : isRefChar d = false) :
    d ∉ cs :=
  fun hmem => ne_of_kind (h.chars d hmem) hd rfl

theorem IsEnding.isRefChar {ending : List Char} (h : IsEnding ending) :
    ∀ c ∈ ending, isRefChar c = true := by
  rcases h with rfl | h
  · simp
  · exact forall_of_map_lower isRefChar_of_letter (by decide) h

/-- A path consists of its parts and slashes. -/
theorem mem_joined {parts : List (List Char)} (hparts : ∀ part ∈ parts, IsPart part) {slashes : Nat}
    {c : Char} (hc : c ∈ '/' :: joinPieces '/' parts ++ List.replicate slashes '/') :
    c = '/' ∨ isRefChar c = true := by
  rcases List.mem_append.mp hc with hc | hc
  · rcases List.mem_cons.mp hc with rfl | hc
    · exact .inl rfl
    · refine (mem_of_mem_joinPieces hc).imp_right fun ⟨part, hpart, hmem⟩ => ?_
      exact (hparts part hpart).chars c hmem
  · exact .inl (List.eq_of_mem_replicate hc)

/-- Slashes around the segments of a path do not count. -/
theorem segments_joinPieces {parts : List (List Char)} (hne : parts ≠ [])
    (hparts : ∀ part ∈ parts, IsPart part) (slashes : Nat) :
    segments ('/' :: joinPieces '/' parts ++ List.replicate slashes '/') = parts := by
  have hpieces : piecesBetween '/' ('/' :: joinPieces '/' parts ++ List.replicate slashes '/') =
      [] :: (parts ++ List.replicate slashes []) := by
    rw [List.cons_append, piecesBetween, if_pos rfl,
      piecesBetween_joinPieces hne fun part hpart => (hparts part hpart).notMem (by decide)]
  have hnone : ∀ part ∈ parts.reverse, List.isEmpty part = false := by
    intro part hpart
    simpa using (hparts part (List.mem_reverse.mp hpart)).ne_nil
  have hdrop : (parts ++ List.replicate slashes []).reverse.dropWhile List.isEmpty =
      parts.reverse := by
    have hcut := dropWhile_append_of_not (p := List.isEmpty) (List.replicate slashes []) []
      (by simp [List.mem_replicate]) hnone (by simp [hne])
    simpa using hcut
  simp only [segments, hpieces, List.head?_cons, if_true, List.drop_succ_cons, List.drop_zero,
    hdrop, List.reverse_reverse]

/-! ## The path -/

namespace Intended

variable (t : Intended) {ending : List Char}

/-- The segments of the path of a page. -/
def parts (ending : List Char) : List (List Char) :=
  t.owner :: (t.name ++ ending) :: if t.ref = [] then [] else "tree".toList :: t.ref

theorem parts_ne_nil (ending : List Char) : t.parts ending ≠ [] := List.cons_ne_nil _ _

/-- What follows the host in the address of a page. -/
def path (ending : List Char) (slashes : Nat) : List Char :=
  '/' :: joinPieces '/' (t.parts ending) ++ List.replicate slashes '/'

/-- A path as it is written. -/
theorem path_eq (ending : List Char) (slashes : Nat) :
    t.path ending slashes =
      '/' :: t.owner ++ '/' :: t.name ++ ending ++ t.tail ++ List.replicate slashes '/' := by
  unfold path parts tail
  by_cases href : t.ref = []
  · simp [href, joinPieces]
  · obtain ⟨segment, ref, hcons⟩ := List.exists_cons_of_ne_nil href
    simp [hcons]

/-- Its segments are parts. -/
theorem isPart_of_mem_parts (h : IsEnding ending) : ∀ cs ∈ t.parts ending, IsPart cs := by
  intro cs hcs
  have hname : IsPart (t.name ++ ending) :=
    (isPart_of_isName t.name_valid).append h.isRefChar
  unfold parts at hcs
  rcases List.mem_cons.mp hcs with rfl | hcs
  · exact isPart_of_isOwner t.owner_valid
  rcases List.mem_cons.mp hcs with rfl | hcs
  · exact hname
  split at hcs
  · simp at hcs
  · rcases List.mem_cons.mp hcs with rfl | hcs
    · exact ⟨by decide, List.all_eq_true.mp (by decide)⟩
    · exact isPart_of_isRefSegment (t.ref_valid cs hcs)

/-- It has slashes and characters of versions. -/
theorem mem_path (h : IsEnding ending) {slashes : Nat} {c : Char}
    (hc : c ∈ t.path ending slashes) : c = '/' ∨ isRefChar c = true :=
  mem_joined (t.isPart_of_mem_parts h) hc

/-- **The segments of a written path** are the parts, however many slashes follow. -/
theorem segments_path (h : IsEnding ending) (slashes : Nat) :
    segments (t.path ending slashes) = t.parts ending :=
  segments_joinPieces (t.parts_ne_nil ending) (t.isPart_of_mem_parts h) slashes

/-- The ending of a clone address is taken off the name. -/
theorem withoutGit_ending (h : IsEnding ending) : withoutGit (t.name ++ ending) = t.name := by
  rcases h with rfl | h
  · rw [List.append_nil, withoutGit, if_neg (by simp [t.not_clone])]
  · have hsuffix : gitSuffix.isSuffixOf ((t.name ++ ending).map asciiLowerChar) = true := by
      rw [List.map_append, h, List.isSuffixOf_iff_suffix]
      exact List.suffix_append _ _
    have hlength : ending.length = 4 := by
      simpa [gitSuffix] using congrArg List.length h
    rw [withoutGit, if_pos hsuffix, List.length_append, hlength, Nat.add_sub_cancel, List.take_left]

/-- An ending that is taken off leaves the name. -/
theorem build?_ending (h : IsEnding ending) (ref : Option String) :
    build? t.owner (t.name ++ ending) ref =
      some ⟨.ofList (t.owner.map asciiLowerChar), .ofList (t.name.map asciiLowerChar), ref⟩ := by
  simp only [build?, t.withoutGit_ending h, t.owner_valid, t.name_valid, Bool.and_self, if_true]

/-- **The path of a page leads to the repository.** -/
theorem atPath?_path (h : IsEnding ending) (slashes : Nat) :
    atPath? (t.path ending slashes) = some t.repository := by
  have hescape : (t.path ending slashes).contains '%' = false := by
    rw [List.contains_eq_mem, decide_eq_false_iff_not]
    intro hmem
    rcases t.mem_path h hmem with heq | hchar
    · simp at heq
    · exact ne_of_kind hchar (by decide) rfl
  have hsome : (t.parts ending).any List.isEmpty = false := by
    rw [List.any_eq_false]
    intro part hpart
    simpa using (t.isPart_of_mem_parts h part hpart).ne_nil
  simp only [atPath?, t.segments_path h, hescape, hsome, Bool.or_self, Bool.false_eq_true, if_false]
  unfold parts repository
  by_cases href : t.ref = []
  · simp [href, t.build?_ending h]
  · have hvalid : t.ref.all isRefSegment = true := List.all_eq_true.mpr t.ref_valid
    simp [href, t.build?_ending h, hvalid]

end Intended

/-! ## The address of a page -/

section

variable {scheme host rest : List Char}

/-- A mark is found wherever it stands. -/
theorem hasSchemeMark_append (cs rest : List Char) :
    hasSchemeMark (cs ++ ':' :: '/' :: '/' :: rest) = true := by
  induction cs with
  | nil => rfl
  | cons c cs ih =>
      rw [List.cons_append]
      unfold hasSchemeMark
      split
      · rfl
      · next heq =>
        rw [← (List.cons.inj heq).2]
        exact ih
      · next heq => simp at heq

theorem hasSchemeMark_of_notMem (h : ':' ∉ rest) : hasSchemeMark rest = false := by
  induction rest with
  | nil => rfl
  | cons c cs ih =>
      obtain ⟨hc, hcs⟩ := List.ne_and_not_mem_of_not_mem_cons h
      rw [hasSchemeMark]
      · exact ih hcs
      · rintro cs' rfl
        exact absurd rfl hc

/-- A scheme is followed by a colon and two slashes. -/
theorem IsScheme.eq_nil_or (h : IsScheme scheme) :
    scheme = [] ∨ ∃ letters, scheme = letters ++ "://".toList ∧
      (letters.map asciiLowerChar = "http".toList ∨
        letters.map asciiLowerChar = "https".toList) := by
  have hsplit : ∀ letters : List Char, scheme.map asciiLowerChar = letters ++ "://".toList →
      ∃ cs, scheme = cs ++ "://".toList ∧ cs.map asciiLowerChar = letters := by
    intro letters hmap
    obtain ⟨cs, marks, rfl, hcs, hmarks⟩ := List.map_eq_append_iff.mp hmap
    exact ⟨cs, by rw [eq_of_map_lower (by decide) hmarks], hcs⟩
  rcases h with rfl | h | h
  · exact .inl rfl
  · obtain ⟨cs, hcs, hletters⟩ := hsplit "http".toList h
    exact .inr ⟨cs, hcs, .inl hletters⟩
  · obtain ⟨cs, hcs, hletters⟩ := hsplit "https".toList h
    exact .inr ⟨cs, hcs, .inr hletters⟩

/-- A scheme is read in any case of its letters. -/
theorem afterScheme?_append {letters : List Char}
    (h : letters.map asciiLowerChar = "http".toList ∨ letters.map asciiLowerChar = "https".toList)
    (rest : List Char) : afterScheme? (letters ++ "://".toList ++ rest) = some rest := by
  have hchars : ∀ c ∈ letters, isRefChar c = true := by
    rcases h with h | h <;> exact forall_of_map_lower isRefChar_of_letter (by decide) h
  have hne : letters ≠ [] := by
    rintro rfl
    simp at h
  have hstart : (letters ++ "://".toList ++ rest).dropWhile (fun c => decide (c.toNat ≤ 0x20)) =
      letters ++ "://".toList ++ rest := by
    have hcontrol : ∀ c ∈ letters, decide (c.toNat ≤ 0x20) = false := fun c hc =>
      decide_eq_false (Nat.not_le_of_lt (lt_toNat_of_isPlain (isPlain_of_isRefChar (hchars c hc))))
    have hdrop := dropWhile_append_of_not [] ("://".toList ++ rest) (by simp) hcontrol hne
    simpa using hdrop
  have hletters : (letters ++ "://".toList ++ rest).takeWhile (· ≠ ':') = letters := by
    rw [List.append_assoc, show "://".toList ++ rest = ':' :: '/' :: '/' :: rest from rfl]
    exact takeWhile_append_cons
      (fun c hc => by simpa using ne_of_kind (hchars c hc) (by decide)) (by decide)
  have hrest : (letters ++ "://".toList ++ rest).drop letters.length =
      ':' :: '/' :: '/' :: rest := by
    rw [List.append_assoc, List.drop_left]
    rfl
  simp only [afterScheme?, hstart, hletters, hrest, if_pos h]

/-- A character of a host: a letter or a dot, and none of the marks of an address. -/
def isHostChar (c : Char) : Bool := isAsciiLetter c || c == '.'

theorem isHostChar_of_mem (hhost : host.map asciiLowerChar ∈ hosts) :
    ∀ c ∈ host, isHostChar c = true := by
  have hall : ∀ h ∈ hosts, h.all isHostChar = true := by decide
  exact forall_of_map_lower (fun c hc => by simp [isHostChar, hc]) (hall _ hhost) rfl

/-- The hosts of the site are hosts. -/
theorem isHost_of_mem_hosts (hhost : host.map asciiLowerChar ∈ hosts) : isHost host = true := by
  have hchars := isHostChar_of_mem hhost
  have huser : host.reverse.takeWhile (fun c => decide (c ≠ '@')) = host.reverse :=
    takeWhile_of_forall fun c hc =>
      decide_eq_true (ne_of_kind (hchars c (List.mem_reverse.mp hc)) (by decide))
  have hport : host.takeWhile (fun c => decide (c ≠ ':')) = host :=
    takeWhile_of_forall fun c hc => decide_eq_true (ne_of_kind (hchars c hc) (by decide))
  unfold isHost
  simp only [huser, List.reverse_reverse, hport]
  simp [hhost]

variable {t : Intended} {ending : List Char}

theorem not_endsAuthority_of_mem (hhost : host.map asciiLowerChar ∈ hosts) :
    ∀ c ∈ host, endsAuthority c = false := by
  intro c hc
  have hchar := isHostChar_of_mem hhost c hc
  simp [endsAuthority, ne_of_kind (d := '/') hchar (by decide),
    ne_of_kind (d := '?') hchar (by decide), ne_of_kind (d := '#') hchar (by decide)]

/-- The authority ends where the path begins. -/
theorem takeWhile_authority (hhost : host.map asciiLowerChar ∈ hosts) (slashes : Nat) :
    (host ++ t.path ending slashes).takeWhile (fun c => !endsAuthority c) = host := by
  rw [Intended.path, List.cons_append]
  refine takeWhile_append_cons (fun c hc => ?_) (by decide)
  rw [not_endsAuthority_of_mem hhost c hc, Bool.not_false]

/-- A written path has no query and no fragment. -/
theorem takeWhile_path (hending : IsEnding ending) (slashes : Nat) :
    (t.path ending slashes).takeWhile (fun c => c ≠ '?' && c ≠ '#') = t.path ending slashes := by
  refine takeWhile_of_forall fun c hc => ?_
  rcases t.mem_path hending hc with rfl | hchar
  · decide
  · simp [ne_of_kind (d := '?') hchar (by decide), ne_of_kind (d := '#') hchar (by decide)]

/-- An address without a scheme gets one. -/
theorem ofAddress?_of_notMem (hmark : ':' ∉ rest) (hstart : rest.head?.any endsAuthority = false) :
    ofAddress? rest = ofAddress? ("https".toList ++ "://".toList ++ rest) := by
  have hmark' : hasSchemeMark ("https".toList ++ "://".toList ++ rest) = true :=
    hasSchemeMark_append "https".toList rest
  have hstart' : ¬ rest.head?.any endsAuthority = true := by simp [hstart]
  unfold ofAddress?
  rw [hmark', hasSchemeMark_of_notMem hmark, if_neg Bool.false_ne_true, if_neg hstart', if_pos rfl]
  rfl

/-- **The address of a page leads to the repository**, with or without a scheme. -/
theorem ofAddress?_page (hscheme : IsScheme scheme) (hhost : host.map asciiLowerChar ∈ hosts)
    (hending : IsEnding ending) (slashes : Nat) :
    ofAddress? (scheme ++ (host ++ t.path ending slashes)) = some t.repository := by
  have hwritten : ∀ letters : List Char, letters.map asciiLowerChar = "http".toList ∨
        letters.map asciiLowerChar = "https".toList →
      ofAddress? (letters ++ "://".toList ++ (host ++ t.path ending slashes)) =
        some t.repository := by
    intro letters hletters
    have hmark : hasSchemeMark (letters ++ "://".toList ++ (host ++ t.path ending slashes)) =
        true := by
      rw [List.append_assoc]
      exact hasSchemeMark_append letters _
    simp only [ofAddress?, hmark, if_true, Option.bind_some, afterScheme?_append hletters,
      takeWhile_authority hhost, isHost_of_mem_hosts hhost, List.drop_left, takeWhile_path hending,
      t.atPath?_path hending]
  rcases hscheme.eq_nil_or with rfl | ⟨letters, rfl, hletters⟩
  · have hne : host ≠ [] := by
      rintro rfl
      revert hhost
      decide
    obtain ⟨c, cs, rfl⟩ := List.exists_cons_of_ne_nil hne
    have hnone : ':' ∉ c :: cs ++ t.path ending slashes := by
      intro hmem
      rcases List.mem_append.mp hmem with hmem | hmem
      · exact ne_of_kind (isHostChar_of_mem hhost _ hmem) (by decide) rfl
      · rcases t.mem_path hending hmem with heq | hchar
        · simp at heq
        · exact ne_of_kind hchar (by decide) rfl
    have hstart := not_endsAuthority_of_mem hhost c List.mem_cons_self
    rw [List.nil_append, ofAddress?_of_notMem hnone (by simp [hstart])]
    exact hwritten "https".toList (.inr (by decide))
  · exact hwritten letters hletters

end

/-! ## SSH addresses -/

section

variable {t : Intended} {ending scheme host : List Char}

/-- The start of an SSH address is taken off. -/
theorem afterSshStart?_append {start : List Char} (h : ∀ l ∈ start, isSshLetter l l = true)
    (rest : List Char) : afterSshStart? start (start ++ rest) = some rest := by
  induction start with
  | nil => rfl
  | cons l start ih =>
      obtain ⟨hl, hstart⟩ := List.forall_mem_cons.mp h
      rw [List.cons_append, afterSshStart?, if_pos hl, ih hstart]

/-- A text that differs in one place does not start as an SSH address. -/
theorem afterSshStart?_eq_none {start cs : List Char} {i : Nat} {l c : Char}
    (hl : start[i]? = some l) (hc : cs[i]? = some c) (hne : isSshLetter l c = false) :
    afterSshStart? start cs = none := by
  induction start generalizing cs i with
  | nil => simp at hl
  | cons l' start ih =>
      cases cs with
      | nil => simp at hc
      | cons c' cs =>
          rw [afterSshStart?]
          cases i with
          | zero =>
              simp only [List.getElem?_cons_zero, Option.some.injEq] at hl hc
              rw [hl, hc, if_neg (by simp [hne])]
          | succ i =>
              rw [ih (by simpa using hl) (by simpa using hc)]
              exact ite_self none

/-- **An SSH address names owner and name.** -/
theorem ssh?_append (hending : IsEnding ending) {slashes : Nat} (hslashes : slashes ≤ 1) :
    ssh? ("git@github.com:".toList ++ (joinPieces '/' [t.owner, t.name ++ ending] ++
      List.replicate slashes '/')) = some (t.owner, t.name ++ ending) := by
  have howner := isPart_of_isOwner t.owner_valid
  have hname := (isPart_of_isName t.name_valid).append hending.isRefChar
  have hpieces : piecesBetween '/' (joinPieces '/' [t.owner, t.name ++ ending] ++
      List.replicate slashes '/') = [t.owner, t.name ++ ending] ++ List.replicate slashes [] := by
    refine piecesBetween_joinPieces (by simp) (fun piece hpiece => ?_) slashes
    simp only [List.mem_cons, List.not_mem_nil, or_false] at hpiece
    rcases hpiece with rfl | rfl
    · exact howner.notMem (by decide)
    · exact hname.notMem (by decide)
  have hstart : ∀ l ∈ sshStart, isSshLetter l l = true :=
    List.all_eq_true.mp (by decide)
  unfold ssh?
  rw [show "git@github.com:".toList = sshStart from rfl, afterSshStart?_append hstart,
    Option.map_some, hpieces]
  match slashes, hslashes with
  | 0, _ => simp [howner.ne_nil, hname.ne_nil]
  | 1, _ => simp [howner.ne_nil, hname.ne_nil]

/-- The address of a page does not start as an SSH address: its fourth character is no `@`. -/
theorem afterSshStart?_page (hscheme : IsScheme scheme) (hhost : host.map asciiLowerChar ∈ hosts)
    (rest : List Char) : afterSshStart? sshStart (scheme ++ (host ++ rest)) = none := by
  have hfourth : ∀ s ∈ [[], "http://".toList, "https://".toList], ∀ h ∈ hosts,
      ((s ++ h)[3]?).any (· ≠ '@') = true := by
    decide
  have hmem : scheme.map asciiLowerChar ∈ [[], "http://".toList, "https://".toList] := by
    rcases hscheme with rfl | h | h
    · simp
    · simp [h]
    · simp [h]
  have hany := hfourth _ hmem _ hhost
  rw [← List.map_append, List.getElem?_map] at hany
  cases hc : (scheme ++ host)[3]? with
  | none => simp [hc] at hany
  | some c =>
      have hletter : isSshLetter '@' c = false := by
        simp only [hc, Option.map_some, Option.any_some, decide_eq_true_eq] at hany
        simp [isSshLetter, hany]
      have hplace : (scheme ++ (host ++ rest))[3]? = some c := by
        rw [← List.append_assoc]
        obtain ⟨hlt, -⟩ := List.getElem?_eq_some_iff.mp hc
        rw [List.getElem?_append_left hlt, hc]
      exact afterSshStart?_eq_none (i := 3) (l := '@') rfl hplace hletter

/-- The address of a page is no SSH address. -/
theorem ssh?_page (hscheme : IsScheme scheme) (hhost : host.map asciiLowerChar ∈ hosts)
    (rest : List Char) : ssh? (scheme ++ (host ++ rest)) = none := by
  rw [ssh?, afterSshStart?_page hscheme hhost, Option.map_none]

end

/-! ## All spellings -/

/-- Blanks around a text without blanks and backslashes do not count. -/
theorem resolveText_core {before core after : List Char}
    (hbefore : ∀ c ∈ before, isBlank c = true)
    (hcore : ∀ c ∈ core, isBlank c = false ∧ c ≠ '\\') (hne : core ≠ [])
    (hafter : ∀ c ∈ after, isBlank c = true) (hlength : core.length ≤ maxLocatorLength) :
    resolveText (.ofList (before ++ core ++ after)) =
      match ssh? core with
      | some (owner, name) => build? owner name none
      | none => ofAddress? core := by
  have hany : core.any isBlank = false := by
    rw [List.any_eq_false]
    intro c hc
    simp [(hcore c hc).1]
  have hescape : core.contains '\\' = false := by
    rw [List.contains_eq_mem, decide_eq_false_iff_not]
    exact fun hmem => (hcore _ hmem).2 rfl
  have hempty : core.isEmpty = false := by simpa using hne
  rcases hssh : ssh? core with _ | ⟨owner, name⟩ <;>
    simp only [resolveText, String.toList_ofList,
      strip_append hbefore (fun c hc => (hcore c hc).1) hne hafter, hempty,
      decide_eq_false (Nat.not_lt_of_le hlength), hany, hescape, hssh, Bool.or_self,
      Bool.false_eq_true, if_false]

/-- Blanks around an address do not matter. -/
theorem resolveText_append {before core after : List Char}
    (hbefore : ∀ c ∈ before, isBlank c = true) (hcore : ∀ c ∈ core, isPlain c = true)
    (hne : core ≠ []) (hafter : ∀ c ∈ after, isBlank c = true)
    (hlength : (before ++ core ++ after).length ≤ maxLocatorLength) :
    resolveText (.ofList (before ++ core ++ after)) =
      match ssh? core with
      | some (owner, name) => build? owner name none
      | none => ofAddress? core := by
  refine resolveText_core hbefore (fun c hc => ?_) hne hafter ?_
  · exact ⟨not_isBlank_of_isPlain (hcore c hc), ne_of_kind (hcore c hc) (by decide)⟩
  · simp only [List.length_append] at hlength
    omega

section

variable {t : Intended} {scheme host ending : List Char}

theorem isPlain_of_mem_page (hscheme : IsScheme scheme) (hhost : host.map asciiLowerChar ∈ hosts)
    (hending : IsEnding ending) (slashes : Nat) :
    ∀ c ∈ scheme ++ (host ++ t.path ending slashes), isPlain c = true := by
  intro c hc
  rcases List.mem_append.mp hc with hc | hc
  · rcases hscheme with rfl | h | h
    · simp at hc
    · exact forall_of_map_lower isPlain_of_letter (by decide) h c hc
    · exact forall_of_map_lower isPlain_of_letter (by decide) h c hc
  · rcases List.mem_append.mp hc with hc | hc
    · have hall : ∀ h ∈ hosts, h.all isPlain = true := by decide
      exact forall_of_map_lower isPlain_of_letter (hall _ hhost) rfl c hc
    · rcases t.mem_path hending hc with rfl | hchar
      · decide
      · exact isPlain_of_isRefChar hchar

theorem isPlain_of_mem_ssh (hending : IsEnding ending) (slashes : Nat) :
    ∀ c ∈ "git@github.com:".toList ++ (joinPieces '/' [t.owner, t.name ++ ending] ++
      List.replicate slashes '/'), isPlain c = true := by
  have howner := isPart_of_isOwner t.owner_valid
  have hname := (isPart_of_isName t.name_valid).append hending.isRefChar
  intro c hc
  rcases List.mem_append.mp hc with hc | hc
  · have hall : ∀ c ∈ "git@github.com:".toList, isPlain c = true :=
      List.all_eq_true.mp (by decide)
    exact hall c hc
  · rcases List.mem_append.mp hc with hc | hc
    · rcases mem_of_mem_joinPieces hc with rfl | ⟨piece, hpiece, hmem⟩
      · decide
      · simp only [List.mem_cons, List.not_mem_nil, or_false] at hpiece
        rcases hpiece with rfl | rfl
        · exact isPlain_of_isRefChar (howner.chars c hmem)
        · exact isPlain_of_isRefChar (hname.chars c hmem)
    · rw [List.eq_of_mem_replicate hc]
      decide

end

/-- **Every documented spelling of a repository names it**, unless it is too long. -/
theorem resolve_spelling {t : Intended} {text : List Char} (h : Spelling t text)
    (hlength : text.length ≤ maxLocatorLength) :
    resolve (.str (.ofList text)) = some t.repository := by
  rw [resolve, Json.text?, Option.bind_some]
  cases h with
  | page before scheme host ending after slashes hbefore hscheme hhost hending hafter =>
      have hcore : scheme ++ host ++ '/' :: t.owner ++ '/' :: t.name ++ ending ++ t.tail ++
          List.replicate slashes '/' = scheme ++ (host ++ t.path ending slashes) := by
        rw [t.path_eq]
        simp
      have hne : scheme ++ (host ++ t.path ending slashes) ≠ [] := by simp [Intended.path]
      rw [hcore] at hlength ⊢
      rw [resolveText_append hbefore (isPlain_of_mem_page hscheme hhost hending slashes) hne hafter
        hlength, ssh?_page hscheme hhost]
      exact ofAddress?_page hscheme hhost hending slashes
  | ssh before ending after slashes hbefore href hending hslashes hafter =>
      have hcore : "git@github.com:".toList ++ t.owner ++ '/' :: t.name ++ ending ++
          List.replicate slashes '/' = "git@github.com:".toList ++
            (joinPieces '/' [t.owner, t.name ++ ending] ++ List.replicate slashes '/') := by
        simp [joinPieces]
      rw [hcore] at hlength ⊢
      rw [resolveText_append hbefore (isPlain_of_mem_ssh hending slashes) (by simp) hafter hlength,
        ssh?_append hending hslashes]
      simp [t.build?_ending hending, Intended.repository, href]

end SourceAudit.Repository

namespace SourceAudit.Sample

open Repository

/-- A branch of a repository. -/
def loginBranch : Intended where
  owner := "OctoCat".toList
  name := "Hello-World".toList
  ref := ["feature".toList, "login".toList]
  owner_valid := by decide
  name_valid := by decide
  not_clone := by decide
  ref_valid := by decide

theorem resolve_spelling_loginBranch :
    resolve (.str " HTTPS://GitHub.com/OctoCat/Hello-World.GIT/tree/feature/login// ") =
      some ⟨"octocat", "hello-world", some "feature/login"⟩ := by
  have hrepository : loginBranch.repository = ⟨"octocat", "hello-world", some "feature/login"⟩ := by
    decide +kernel
  rw [← hrepository]
  refine resolve_spelling ?_ (by decide)
  exact .page [' '] "HTTPS://".toList "GitHub.com".toList ".GIT".toList [' '] 2
    (List.all_eq_true.mp (by decide)) (.inr (.inr (by decide))) (by decide) (.inr (by decide))
    (List.all_eq_true.mp (by decide))

end SourceAudit.Sample
