import SourceAudit.Proofs.Remote.Places
import SourceAudit.Proofs.Repository.Reading

/-!
# SourceAudit.Proofs.Repository.Safety

A repository that was read is safe to put into an address.

* `Safe` — which characters owner, name and version may have, and in what order;
* `safe_of_isBuilt` — what is built has no others;
* `treePath_eq`, `safePart_treeParts` — so the path of a listing consists of parts that stand for
  themselves;
* `resolve_safe` — whatever value was read, and the listing is found below the service and nowhere
  else.
-/

namespace SourceAudit.Repository

open Text Remote

/-! ## What is safe -/

/-- One segment of a version. -/
structure SafeSegment (segment : List Char) : Prop where
  length : 1 ≤ segment.length ∧ segment.length ≤ 255
  chars : ∀ c ∈ segment, ('a' ≤ c ∧ c ≤ 'z') ∨ ('A' ≤ c ∧ c ≤ 'Z') ∨ ('0' ≤ c ∧ c ≤ '9') ∨
    c ∈ ['.', '_', '+', '@', '-']
  start : segment.head? ≠ some '.'
  dots : ¬ ['.', '.'] <:+: segment
  lock : ¬ ['.', 'l', 'o', 'c', 'k'] <:+ segment

/-- A repository of small letters, digits and few marks. -/
structure Safe (r : Repository) : Prop where
  owner_length : 1 ≤ r.owner.length ∧ r.owner.length ≤ 39
  owner_chars : ∀ c ∈ r.owner.toList, ('a' ≤ c ∧ c ≤ 'z') ∨ ('0' ≤ c ∧ c ≤ '9') ∨ c = '-'
  owner_start : r.owner.toList.head? ≠ some '-'
  name_length : 1 ≤ r.name.length ∧ r.name.length ≤ 100
  name_chars : ∀ c ∈ r.name.toList, ('a' ≤ c ∧ c ≤ 'z') ∨ ('0' ≤ c ∧ c ≤ '9') ∨
    c ∈ ['.', '_', '-']
  name_ne : r.name ≠ "." ∧ r.name ≠ ".."
  ref_segments : ∀ version, r.ref = some version →
    ∀ segment ∈ piecesBetween '/' version.toList, SafeSegment segment

/-- A part of a path that stands for itself and ends before the next part. -/
structure SafePart (part : List Char) : Prop where
  ne_nil : part ≠ []
  not_dot : part ≠ ['.'] ∧ part ≠ ['.', '.']
  marks : '/' ∉ part ∧ '?' ∉ part ∧ '#' ∉ part

/-! ## Characters -/

section

variable {c : Char} {cs : List Char}

theorem isAsciiLetter_iff :
    isAsciiLetter c = true ↔ ('a' ≤ c ∧ c ≤ 'z') ∨ ('A' ≤ c ∧ c ≤ 'Z') := by
  simp [isAsciiLetter]

theorem isAsciiDigit_iff : isAsciiDigit c = true ↔ '0' ≤ c ∧ c ≤ '9' := by
  simp [isAsciiDigit]

/-- What lower case leaves as it is are small letters. -/
theorem small_of_lower (hletter : isAsciiLetter c = true) (hlower : asciiLowerChar c = c) :
    'a' ≤ c ∧ c ≤ 'z' := by
  refine (isAsciiLetter_iff.mp hletter).resolve_right fun hcapital => ?_
  have hlow : 65 ≤ c.toNat := hcapital.1
  have hhigh : c.toNat ≤ 90 := hcapital.2
  have hcode : c.toNat ∈ List.range' 65 26 := by
    rw [List.mem_range'_1]
    omega
  exact of_codes (P := fun c => asciiLowerChar c ≠ c) (by decide +kernel) hcode hlower

theorem lower_of_mem (h : cs.map asciiLowerChar = cs) (hc : c ∈ cs) : asciiLowerChar c = c := by
  have hsame : cs.map asciiLowerChar = cs.map id := by rw [h, List.map_id]
  exact List.map_inj_left.mp hsame c hc

/-- The characters of an owner are small letters, digits and hyphens once they are in lower case. -/
theorem ownerChar_of_lower (h : isOwnerChar c = true) (hlower : asciiLowerChar c = c) :
    ('a' ≤ c ∧ c ≤ 'z') ∨ ('0' ≤ c ∧ c ≤ '9') ∨ c = '-' := by
  simp only [isOwnerChar, Bool.or_eq_true, beq_iff_eq] at h
  rcases h with (hletter | hdigit) | hmark
  · exact .inl (small_of_lower hletter hlower)
  · exact .inr (.inl (isAsciiDigit_iff.mp hdigit))
  · exact .inr (.inr hmark)

/-- Two dots in a row are found wherever they stand. -/
theorem hasDoubleDot_of_isInfix (h : ['.', '.'] <:+: cs) : hasDoubleDot cs = true := by
  fun_induction hasDoubleDot cs with
  | case1 => rfl
  | case2 c cs hdots ih =>
      rcases List.infix_cons_iff.mp h with hprefix | hrest
      · obtain ⟨after, hafter⟩ := hprefix
        obtain ⟨hc, hcs⟩ := List.cons.inj hafter
        exact (hdots after hc.symm hcs.symm).elim
      · exact ih hrest
  | case3 => simp at h

end

/-! ## What is built is safe -/

/-- A segment of a version that is accepted is safe. -/
theorem safeSegment_of_isRefSegment {segment : List Char} (h : isRefSegment segment = true) :
    SafeSegment segment := by
  have hpart := isPart_of_isRefSegment h
  simp only [isRefSegment, Bool.and_eq_true, decide_eq_true_eq, Bool.not_eq_true'] at h
  obtain ⟨⟨⟨⟨hlength, -⟩, hfirst⟩, hdots⟩, hlock⟩ := h
  refine ⟨⟨List.length_pos_of_ne_nil hpart.ne_nil, hlength⟩, fun c hc => ?_, ?_, ?_, ?_⟩
  · have hchar := hpart.chars c hc
    simp only [isRefChar, isNameChar, isOwnerChar, Bool.or_eq_true, beq_iff_eq, isAsciiLetter_iff,
      isAsciiDigit_iff] at hchar
    rcases hchar with ((((((hsmall | hcapital) | hdigit) | rfl) | rfl) | rfl) | rfl) | rfl
    · exact .inl hsmall
    · exact .inr (.inl hcapital)
    · exact .inr (.inr (.inl hdigit))
    all_goals decide
  · intro heq
    simp [heq] at hfirst
  · intro hinfix
    simp [hasDoubleDot_of_isInfix hinfix] at hdots
  · intro hsuffix
    simp [List.isSuffixOf_iff_suffix.mpr hsuffix, lockSuffix] at hlock

/-- A version is made of such segments. -/
theorem segments_of_isVersion {ref : Option String} (h : IsVersion ref) {version : String}
    (hversion : ref = some version) :
    ∀ segment ∈ piecesBetween '/' version.toList, isRefSegment segment = true := by
  obtain ⟨segments, hne, hvalid, heq⟩ := h version hversion
  have hslash : ∀ segment ∈ segments, '/' ∉ segment := fun segment hsegment =>
    (isPart_of_isRefSegment (hvalid segment hsegment)).notMem (by decide)
  rw [heq, piecesBetween_joinPieces_self hne hslash]
  exact hvalid

/-- **What is resolved is safe.** -/
theorem safe_of_isBuilt {r : Repository} (h : IsBuilt r) : Safe r := by
  have howner := h.owner_valid
  have hname := h.name_valid
  simp only [isOwner, isName, Bool.and_eq_true, decide_eq_true_eq, List.all_eq_true] at howner hname
  obtain ⟨⟨hownerLength, hownerChars⟩, hownerStart⟩ := howner
  obtain ⟨⟨⟨⟨hnameLength, hnameChars⟩, -⟩, hdot⟩, hdots⟩ := hname
  constructor
  case owner_length =>
    rw [← String.length_toList]
    exact ⟨List.length_pos_of_ne_nil (isPart_of_isOwner h.owner_valid).ne_nil, hownerLength⟩
  case owner_chars =>
    exact fun c hc => ownerChar_of_lower (hownerChars c hc) (lower_of_mem h.owner_lower hc)
  case owner_start =>
    intro heq
    simp [heq] at hownerStart
  case name_length =>
    rw [← String.length_toList]
    exact ⟨List.length_pos_of_ne_nil (isPart_of_isName h.name_valid).ne_nil, hnameLength⟩
  case name_chars =>
    intro c hc
    have hchar := hnameChars c hc
    simp only [isNameChar, Bool.or_eq_true, beq_iff_eq] at hchar
    rcases hchar with (hchar | rfl) | rfl
    · refine (ownerChar_of_lower hchar (lower_of_mem h.name_lower hc)).imp_right fun hrest => ?_
      exact hrest.imp_right fun hmark => by simp [hmark]
    all_goals decide
  case name_ne =>
    exact ⟨fun heq => hdot (by rw [heq]; rfl), fun heq => hdots (by rw [heq]; rfl)⟩
  case ref_segments =>
    exact fun version hversion segment hsegment =>
      safeSegment_of_isRefSegment (segments_of_isVersion h.1 hversion segment hsegment)

/-! ## Parts of a path -/

section

variable {cs : List Char}

theorem nameChars_of_isName (h : isName cs = true) : ∀ c ∈ cs, isNameChar c = true := by
  simp only [isName, Bool.and_eq_true, List.all_eq_true] at h
  exact h.1.1.1.2

theorem isName_of_isOwner (h : isOwner cs = true) : isName cs = true := by
  have hne := (isPart_of_isOwner h).ne_nil
  simp only [isOwner, Bool.and_eq_true, decide_eq_true_eq, List.all_eq_true] at h
  obtain ⟨⟨hlength, hchars⟩, -⟩ := h
  have hdot : '.' ∉ cs := fun hmem => absurd (hchars '.' hmem) (by decide)
  simp only [isName, Bool.and_eq_true, decide_eq_true_eq, List.all_eq_true]
  refine ⟨⟨⟨⟨by omega, fun c hc => by simp [isNameChar, hchars c hc]⟩, by simpa using hne⟩, ?_⟩, ?_⟩
  · rintro rfl
    simp at hdot
  · rintro rfl
    simp at hdot

/-- A name is safe as a part of a path. -/
theorem safePart_of_isName (h : isName cs = true) : SafePart cs := by
  have hpart := isPart_of_isName h
  simp only [isName, Bool.and_eq_true, decide_eq_true_eq] at h
  exact ⟨hpart.ne_nil, ⟨h.1.2, h.2⟩, hpart.notMem (by decide), hpart.notMem (by decide),
    hpart.notMem (by decide)⟩

/-- The characters of a name are not escaped in a path. -/
theorem isKept_of_isNameChar {c : Char} (h : isNameChar c = true) :
    isKept Url.pathMarks c = true := by
  refine Url.isKept_of_isUnreserved ?_
  simp only [isNameChar, isOwnerChar, Bool.or_eq_true] at h
  simp only [isUnreserved, Bool.or_eq_true]
  tauto

/-- A segment of a version stands for itself, also where it has escapes. -/
theorem safePart_percentPath (h : isRefSegment cs = true) : SafePart (percentPath cs) := by
  have hpart := isPart_of_isRefSegment h
  have hsafe := safeSegment_of_isRefSegment h
  have hdot : ¬ Url.IsDot (percentPath cs) := by
    intro hdot
    rcases Url.IsDot.of_percentChars hdot with rfl | rfl
    · exact hsafe.start rfl
    · exact hsafe.start rfl
  have hslash : '/' ∉ percentPath cs := by
    have hpiece : percentPath cs ∈ piecesBetween '/' (percentPath cs) := by
      rw [piecesBetween_percentPath, piecesBetween_of_notMem (hpart.notMem (by decide))]
      exact List.mem_cons_self
    exact notMem_of_mem_piecesBetween hpiece
  refine ⟨percentChars_ne_nil hpart.ne_nil, not_or.mp hdot, hslash, fun hmem => ?_, fun hmem => ?_⟩
  · exact (Url.ne_of_isKept (Url.isKept_of_mem_percentPath hmem)).1 rfl
  · exact (Url.ne_of_isKept (Url.isKept_of_mem_percentPath hmem)).2 rfl

end

/-! ## The listing of a version -/

/-- The parts of the path at which a version is listed. -/
def treeParts (r : Repository) (version : String) : List (List Char) :=
  ["repos".toList, r.owner.toList, r.name.toList, "git".toList, "trees".toList] ++
    (piecesBetween '/' version.toList).map percentPath

section

variable {r : Repository} {version : String}

/-- The parts of the path of a tree, with the version as one text. -/
theorem joinPieces_treeParts : joinPieces '/' (treeParts r version) =
    "repos".toList ++ '/' :: (r.owner.toList ++ '/' :: (r.name.toList ++ '/' :: ("git".toList ++
      '/' :: ("trees".toList ++ '/' :: percentPath version.toList)))) := by
  have hversion : joinPieces '/' ((piecesBetween '/' version.toList).map percentPath) =
      percentPath version.toList := by
    rw [← piecesBetween_percentPath, joinPieces_piecesBetween]
  rw [← hversion, treeParts]
  obtain ⟨first, rest, hrest⟩ := List.exists_cons_of_ne_nil (piecesBetween_ne_nil '/' version.toList)
  rw [hrest]
  rfl

/-- The path of a tree is made of these parts. -/
theorem treePath_eq (recursive : Bool) :
    (Query.tree version recursive).path r = '/' :: joinPieces '/' (treeParts r version) := by
  have hrepos : "/repos/".toList = '/' :: ("repos".toList ++ ['/']) := by decide +kernel
  have htrees : "/git/trees/".toList = '/' :: ("git".toList ++ '/' :: ("trees".toList ++ ['/'])) := by
    decide +kernel
  have hassoc : ∀ repos owner name git trees version : List Char,
      '/' :: (repos ++ ['/']) ++ owner ++ '/' :: name ++
          ('/' :: (git ++ '/' :: (trees ++ ['/'])) ++ version) =
        '/' :: (repos ++ '/' :: (owner ++ '/' :: (name ++ '/' :: (git ++ '/' :: (trees ++
          '/' :: version))))) := by
    simp
  rw [joinPieces_treeParts, ← hassoc, ← hrepos, ← htrees]
  rfl

/-- The parts are names, and segments of the version in which some characters are encoded. -/
theorem eq_of_mem_treeParts (h : IsBuilt r) (hversion : r.ref = some version) {part : List Char}
    (hpart : part ∈ treeParts r version) :
    isName part = true ∨ ∃ segment, isRefSegment segment = true ∧ part = percentPath segment := by
  rcases List.mem_append.mp hpart with hfixed | hsegment
  · simp only [List.mem_cons, List.not_mem_nil, or_false] at hfixed
    left
    rcases hfixed with rfl | rfl | rfl | rfl | rfl
    · decide
    · exact isName_of_isOwner h.owner_valid
    · exact h.name_valid
    · decide
    · decide
  · obtain ⟨segment, hmem, rfl⟩ := List.mem_map.mp hsegment
    exact .inr ⟨segment, segments_of_isVersion h.1 hversion segment hmem, rfl⟩

/-- **The parts of the path of a listing** stand for themselves. -/
theorem safePart_of_mem_treeParts (h : IsBuilt r) (hversion : r.ref = some version)
    {part : List Char} (hpart : part ∈ treeParts r version) : SafePart part := by
  obtain hname | ⟨segment, hsegment, rfl⟩ := eq_of_mem_treeParts h hversion hpart
  · exact safePart_of_isName hname
  · exact safePart_percentPath hsegment

/-- Nothing of them is encoded. -/
theorem isKept_of_mem_treeParts (h : IsBuilt r) (hversion : r.ref = some version) {part : List Char}
    (hpart : part ∈ treeParts r version) : ∀ c ∈ part, isKept Url.pathMarks c = true := by
  obtain hname | ⟨segment, -, rfl⟩ := eq_of_mem_treeParts h hversion hpart
  · exact fun c hc => isKept_of_isNameChar (nameChars_of_isName hname c hc)
  · exact fun c => Url.isKept_of_mem_percentPath

end

/-! ## What was read -/

/-- **A repository that was read is safe to put into an address.** Owner, name and version have few
characters, no part of the path at which the version is listed is empty or a dot segment or ends the
path, and under the address of a service without a query the listing is asked for at that path. -/
theorem resolve_safe {j : Json} {r : Repository} (h : resolve j = some r) :
    Safe r ∧ ∀ version, r.ref = some version → ∀ recursive,
      (Query.tree version recursive).path r = '/' :: joinPieces '/' (treeParts r version) ∧
      (∀ part ∈ treeParts r version, SafePart part) ∧
      ∀ service base, serviceAddress? service = some base → base.query = none →
        (Query.tree version recursive).address? base r =
          if Url.maxLength < (base.target ++ joinPieces '/' (treeParts r version)).length then none
          else some { base with
            path := base.target ++ joinPieces '/' (treeParts r version)
            query := if recursive then some "recursive=1".toList else none } := by
  have hbuilt := isBuilt_of_resolve h
  refine ⟨safe_of_isBuilt hbuilt, fun version hversion recursive => ?_⟩
  have hparts : ∀ part ∈ treeParts r version, SafePart part :=
    fun part => safePart_of_mem_treeParts hbuilt hversion
  refine ⟨treePath_eq recursive, hparts, fun service base hservice hplain => ?_⟩
  have hresolved : Url.Resolved base (joinPieces '/' (treeParts r version)) :=
    Url.resolved_joinPieces (List.cons_ne_nil _ _)
      (fun part => isKept_of_mem_treeParts hbuilt hversion)
      fun part hpart => ⟨(hparts part hpart).marks.1, not_or.mpr (hparts part hpart).not_dot⟩
  have hstart : (joinPieces '/' (treeParts r version)).head? ≠ some '/' := by
    rw [joinPieces_treeParts]
    exact (by decide : some 'r' ≠ some '/')
  have hparameters : (Query.tree version recursive).parameters =
      if recursive then some "recursive=1".toList else none := by
    cases recursive <;> rfl
  have hshort : (Query.tree version recursive).parameters.any (Url.maxLength < ·.length) =
      false := by
    rw [hparameters]
    cases recursive <;> decide
  have hkept : (Query.tree version recursive).parameters.map (percentKept Url.queryMarks) =
      if recursive then some "recursive=1".toList else none := by
    rw [hparameters]
    cases recursive <;> decide
  rw [Query.address?, treePath_eq recursive,
    Url.extend?_below (Url.isBase_of_serviceAddress? hservice hplain) hresolved hstart hshort, hkept]

end SourceAudit.Repository

namespace SourceAudit.Sample

open Repository Remote

theorem resolve_safe_loginBranch :
    Safe ⟨"octocat", "hello-world", some "feature/login@2"⟩ ∧
      (Query.tree "feature/login@2" true).address?
          ⟨"https".toList, [], "api.github.com".toList, none, [], none, none⟩
          ⟨"octocat", "hello-world", some "feature/login@2"⟩ =
        some ⟨"https".toList, [], "api.github.com".toList, none,
          "/repos/octocat/hello-world/git/trees/feature/login%402".toList,
          some "recursive=1".toList, none⟩ := by
  have hread : resolve (.str "https://github.com/OctoCat/Hello-World/tree/feature/login@2") =
      some ⟨"octocat", "hello-world", some "feature/login@2"⟩ := by
    decide +kernel
  have hservice : serviceAddress? "https://api.github.com" =
      some ⟨"https".toList, [], "api.github.com".toList, none, [], none, none⟩ := by
    decide +kernel
  obtain ⟨hsafe, htree⟩ := resolve_safe hread
  refine ⟨hsafe, ((htree _ rfl true).2.2 _ _ hservice rfl).trans ?_⟩
  decide +kernel

end SourceAudit.Sample
