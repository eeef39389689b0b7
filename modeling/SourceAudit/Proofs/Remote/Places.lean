import SourceAudit.Proofs.Text.Escapes
import SourceAudit.Remote.Target

/-!
# SourceAudit.Proofs.Remote.Places

The address of something below another one. Where an address is put together from a text, escapes
are added and dot segments are resolved; a path with which nothing of that happens is settled.

* `withPath?_of_settled`, `settled_withPath?` — an address takes a settled path as it is, and its
  path is always settled;
* `isBase_of_serviceAddress?` — the address of a service ends in a slash;
* `extend?_below` — so what is below it has its path, followed by the path below it.
-/

namespace SourceAudit.Remote.Url

open Text

/-- A segment that does not stand for itself. -/
def IsDot (segment : List Char) : Prop := segment = ['.'] ∨ segment = ['.', '.']

/-- Nothing in the path is to be encoded, and there are no dots to resolve; they are resolved after
a scheme or an authority only. -/
structure Resolved (u : Url) (path : List Char) : Prop where
  kept : ∀ c ∈ path, isKept pathMarks c = true
  dots : (u.hasAuthority || !u.scheme.isEmpty) = true →
    ∀ segment ∈ piecesBetween '/' path, ¬ IsDot segment

/-- A path that the address can have, as it is. -/
structure Settled (u : Url) (path : List Char) : Prop extends Resolved u path where
  admitted : u.admits path = true

/-! ## Characters -/

section

variable {c : Char} {cs : List Char}

theorem not_isControl_of_isKept (h : isKept pathMarks c = true) : isControl c = false := by
  simp only [isKept, Bool.and_eq_true, decide_eq_true_eq] at h
  simp only [isControl, Bool.or_eq_false_iff, decide_eq_false_iff_not]
  omega

theorem ne_of_isKept (h : isKept pathMarks c = true) : c ≠ '?' ∧ c ≠ '#' :=
  ⟨fun heq => by subst heq; revert h; decide, fun heq => by subst heq; revert h; decide⟩

theorem isKept_of_isUnreserved (h : isUnreserved c = true) : isKept pathMarks c = true := by
  have hcodes : ∀ n ∈ List.range 0x80, isUnreserved (Char.ofNat n) = true →
      isKept pathMarks (Char.ofNat n) = true := by
    decide +kernel
  exact of_codes (P := fun c => isUnreserved c = true → isKept pathMarks c = true) hcodes
    (List.mem_range.mpr (toNat_lt_of_isUnreserved h)) h

/-- Nothing of an encoded path is encoded again. -/
theorem isKept_of_mem_percentPath (h : c ∈ percentPath cs) : isKept pathMarks c = true := by
  have hescape : ∀ d ∈ escapeChars, isKept pathMarks d = true := forall_of_all (by decide)
  rcases mem_percentChars h with ⟨-, hc⟩ | hc
  · rcases Bool.or_eq_true_iff.mp hc with hc | hc
    · exact isKept_of_isUnreserved hc
    · rw [beq_iff_eq.mp hc]
      decide
  · exact hescape c hc

end

/-! ## Dots -/

section

variable {segment : List Char} {segments done : List (List Char)}

/-- Where dots are resolved, no segment of dots is left. -/
theorem mem_resolveDots (h : segment ∈ resolveDots done segments) :
    segment ∈ done ∨ segment ∈ segments ∧ ¬ IsDot segment := by
  -- Double dots take from what is done, so that is general in the induction.
  induction segments generalizing done with
  | nil => exact .inl (by simpa [resolveDots] using h)
  | cons s segments ih =>
      rw [resolveDots] at h
      split at h
      · exact (ih h).imp_right fun ⟨hmem, hdot⟩ => ⟨List.mem_cons_of_mem s hmem, hdot⟩
      · next hsingle =>
        split at h
        · rcases ih h with hmem | ⟨hmem, hdot⟩
          · refine .inl ?_
            split at hmem
            · exact hmem
            · exact List.mem_of_mem_drop hmem
          · exact .inr ⟨List.mem_cons_of_mem s hmem, hdot⟩
        · next hdouble =>
          rcases ih h with hmem | ⟨hmem, hdot⟩
          · rcases List.mem_cons.mp hmem with rfl | hmem
            · exact .inr ⟨List.mem_cons_self, not_or.mpr ⟨hsingle, hdouble⟩⟩
            · exact .inl hmem
          · exact .inr ⟨List.mem_cons_of_mem s hmem, hdot⟩

/-- An absolute path stays absolute. -/
theorem resolveDots_rooted (h : done.getLast? = some []) :
    (resolveDots done segments).head? = some [] := by
  induction segments generalizing done with
  | nil => rwa [resolveDots, List.head?_reverse]
  | cons s segments ih =>
      rw [resolveDots]
      split
      · exact ih h
      · split
        · refine ih ?_
          split
          · exact h
          · next hroot =>
            obtain ⟨front, rfl⟩ := List.getLast?_eq_some_iff.mp h
            cases front with
            | nil => exact absurd rfl hroot
            | cons t front => simp
        · refine ih ?_
          rw [List.getLast?_cons, h]
          rfl

/-- Where there are none, nothing is resolved. -/
theorem resolveDots_of_forall (h : ∀ segment ∈ segments, ¬ IsDot segment) :
    resolveDots done segments = done.reverse ++ segments := by
  induction segments generalizing done with
  | nil => simp [resolveDots]
  | cons s segments ih =>
      obtain ⟨hs, hrest⟩ := List.forall_mem_cons.mp h
      rw [resolveDots, if_neg (fun heq => hs (.inl heq)), if_neg (fun heq => hs (.inr heq)),
        ih hrest]
      simp

/-- A path without dots has none as a segment. -/
theorem not_isDot_of_mem_withoutDots {path : List Char}
    (h : segment ∈ piecesBetween '/' (withoutDots path)) : ¬ IsDot segment := by
  rw [withoutDots] at h
  have hparts : ∀ part ∈ resolveDots [] (piecesBetween '/' path), '/' ∉ part ∧ ¬ IsDot part := by
    intro part hpart
    obtain ⟨hmem, hdot⟩ := (mem_resolveDots hpart).resolve_left List.not_mem_nil
    exact ⟨notMem_of_mem_piecesBetween hmem, hdot⟩
  generalize resolveDots [] (piecesBetween '/' path) = parts at h hparts
  by_cases hne : parts = []
  · subst hne
    obtain rfl : segment = [] := by simpa [joinPieces, piecesBetween] using h
    simp [IsDot]
  · rw [piecesBetween_joinPieces_self hne fun part hpart => (hparts part hpart).1] at h
    exact (hparts segment h).2

/-- A path that has none is left as it is. -/
theorem withoutDots_of_forall {path : List Char}
    (h : ∀ segment ∈ piecesBetween '/' path, ¬ IsDot segment) : withoutDots path = path := by
  rw [withoutDots, resolveDots_of_forall h, List.reverse_nil, List.nil_append,
    joinPieces_piecesBetween]

/-- Escapes do not make a dot segment. -/
theorem IsDot.of_percentChars {isSafe : Char → Bool}
    (h : IsDot (segment.flatMap (percentChar isSafe))) : IsDot segment := by
  have hsame : segment.flatMap (percentChar isSafe) = segment := by
    refine percentChars_of_notMem ?_
    rcases h with h | h <;> simp [h]
  rwa [hsame] at h

end

/-! ## Paths -/

section

variable {u v : Url} {path rest : List Char} {query : Option (List Char)}

/-- With an authority a path begins with a slash; without one, it is not taken for an authority or a
scheme. -/
theorem admits_eq_true_iff : u.admits path = true ↔
    if u.hasAuthority then path.head?.all (· = '/') = true
    else u.scheme ≠ [] ∨ ¬ ['/', '/'] <+: path ∧ ¬ [':'] <+: path := by
  have hslashes : path.take 2 ≠ ['/', '/'] ↔ ¬ ['/', '/'] <+: path := by
    rw [List.prefix_iff_eq_take, ne_comm]
    rfl
  have hcolon : path.head? ≠ some ':' ↔ ¬ [':'] <+: path := by
    cases path <;> simp [eq_comm]
  rw [admits]
  split
  · rfl
  · simp [hslashes, hcolon]

/-- **An address takes a settled path** as it is. -/
theorem withPath?_of_settled (h : Settled u path) : u.withPath? path query =
    if maxLength < path.length || query.any (maxLength < ·.length) then none
    else some { u with path := path, query := query.map (percentKept queryMarks) } := by
  have hpath : (if u.hasAuthority || !u.scheme.isEmpty then withoutDots path else path) = path := by
    split
    · next hresolved => exact withoutDots_of_forall (h.dots hresolved)
    · rfl
  have hkept : percentKept pathMarks path = path := percentChars_of_forall h.kept
  simp only [withPath?, h.admitted, Bool.not_true, Bool.false_or, hpath, hkept]

theorem admits_withoutDots (hauthority : u.hasAuthority = true) (h : u.admits path = true) :
    u.admits (withoutDots path) = true := by
  rw [admits_eq_true_iff, if_pos hauthority] at h ⊢
  cases path with
  | nil => rfl
  | cons c path =>
      obtain rfl : c = '/' := by simpa using h
      have hroot : (resolveDots [] (piecesBetween '/' ('/' :: path))).head? = some [] := by
        rw [piecesBetween, if_pos rfl, resolveDots, if_neg (by simp), if_neg (by simp)]
        exact resolveDots_rooted rfl
      obtain ⟨rest, hrest⟩ := List.head?_eq_some_iff.mp hroot
      rw [withoutDots, hrest]
      cases rest <;> simp [joinPieces]

/-- An address that admits a path admits it escaped. -/
theorem admits_percentKept (h : u.admits path = true) :
    u.admits (percentKept pathMarks path) = true := by
  rw [admits_eq_true_iff] at h ⊢
  split
  · next hauthority =>
    rw [if_pos hauthority] at h
    cases path with
    | nil => rfl
    | cons c path =>
        obtain rfl : c = '/' := by simpa using h
        rfl
  · next hauthority =>
    rw [if_neg hauthority] at h
    refine h.imp_right fun ⟨hslashes, hcolon⟩ => ⟨fun hfront => ?_, fun hfront => ?_⟩
    · exact hslashes (prefix_of_prefix_percentChars (by decide) hfront)
    · exact hcolon (prefix_of_prefix_percentChars (by decide) hfront)

/-- **The path of an address** is settled. -/
theorem settled_withPath? (h : u.withPath? path query = some v) : Settled v v.path := by
  unfold withPath? at h
  split at h
  · simp at h
  · next hvalid =>
    obtain rfl := Option.some.inj h
    simp only [Bool.or_eq_true, not_or, Bool.not_eq_true, Bool.not_eq_false'] at hvalid
    obtain ⟨⟨hadmitted, -⟩, -⟩ := hvalid
    refine ⟨⟨?_, ?_⟩, ?_⟩
    · exact fun c hc => isKept_of_mem_percentKept (forall_of_all (by decide)) hc
    · intro hresolved segment hsegment
      have hpath : (if u.hasAuthority || !u.scheme.isEmpty then withoutDots path else path) =
          withoutDots path := if_pos hresolved
      have hslash : '/' ∉ pathMarks := by decide
      simp only [hpath, piecesBetween_percentKept hslash] at hsegment
      obtain ⟨part, hpart, rfl⟩ := List.mem_map.mp hsegment
      exact fun hdot => not_isDot_of_mem_withoutDots hpart hdot.of_percentChars
    · refine admits_percentKept (u := u) ?_
      split
      · next hresolved =>
        by_cases hauthority : u.hasAuthority = true
        · exact admits_withoutDots hauthority hadmitted
        · rw [admits_eq_true_iff, if_neg hauthority]
          exact .inl (by simpa [hauthority] using hresolved)
      · exact hadmitted

/-- The path of an address that was read is settled. -/
theorem settled_parse? {cs : List Char} (h : parse? cs = some u) : Settled u u.path := by
  unfold parse? at h
  split at h
  · simp at h
  · dsimp only at h
    split at h
    · exact settled_withPath? h
    · simp at h

/-! ## Longer paths -/

/-- A path that goes on after a slash. -/
theorem resolved_append_cons_iff :
    Resolved u (path ++ '/' :: rest) ↔ Resolved u path ∧ Resolved u rest := by
  constructor
  · intro h
    refine ⟨⟨fun c hc => ?_, fun hresolved segment hsegment => ?_⟩,
      ⟨fun c hc => ?_, fun hresolved segment hsegment => ?_⟩⟩
    · exact h.kept c (List.mem_append_left _ hc)
    · refine h.dots hresolved segment ?_
      rw [piecesBetween_append_cons]
      exact List.mem_append_left _ hsegment
    · exact h.kept c (List.mem_append_right _ (List.mem_cons_of_mem _ hc))
    · refine h.dots hresolved segment ?_
      rw [piecesBetween_append_cons]
      exact List.mem_append_right _ hsegment
  · rintro ⟨hpath, hrest⟩
    refine ⟨fun c hc => ?_, fun hresolved segment hsegment => ?_⟩
    · rcases List.mem_append.mp hc with hc | hc
      · exact hpath.kept c hc
      · rcases List.mem_cons.mp hc with rfl | hc
        · decide
        · exact hrest.kept c hc
    · rw [piecesBetween_append_cons] at hsegment
      rcases List.mem_append.mp hsegment with hsegment | hsegment
      · exact hpath.dots hresolved segment hsegment
      · exact hrest.dots hresolved segment hsegment

/-- The empty path is resolved. -/
theorem resolved_nil (u : Url) : Resolved u [] := by
  refine ⟨nofun, fun _ segment hsegment => ?_⟩
  rw [List.mem_singleton.mp hsegment]
  simp [IsDot]

/-- Parts that are kept as they are make a path that is. -/
theorem resolved_joinPieces {parts : List (List Char)} (hne : parts ≠ [])
    (hkept : ∀ part ∈ parts, ∀ c ∈ part, isKept pathMarks c = true)
    (hparts : ∀ part ∈ parts, '/' ∉ part ∧ ¬ IsDot part) : Resolved u (joinPieces '/' parts) := by
  refine ⟨fun c hc => ?_, fun _ segment hsegment => ?_⟩
  · obtain rfl | ⟨part, hpart, hcpart⟩ := mem_of_mem_joinPieces hc
    · decide
    · exact hkept part hpart c hcpart
  · rw [piecesBetween_joinPieces_self hne fun part hpart => (hparts part hpart).1] at hsegment
    exact (hparts segment hsegment).2

/-- A path may get a slash at its end. -/
theorem Settled.slash (h : Settled u path) (hend : path.getLast? ≠ some '/') :
    Settled u (path ++ ['/']) := by
  refine ⟨resolved_append_cons_iff.mpr ⟨h.toResolved, resolved_nil u⟩, ?_⟩
  have hadmitted := h.admitted
  rw [admits_eq_true_iff] at hadmitted ⊢
  match path with
  | [] => simp [List.prefix_iff_eq_take]
  | [c] =>
      have hc : c ≠ '/' := by simpa using hend
      simpa [Ne.symm hc] using hadmitted
  | c :: d :: path => simpa using hadmitted

/-- A path that ends in a slash may go on. -/
theorem Settled.goesOn (h : Settled u (path ++ ['/'])) (hrest : Resolved u rest)
    (hstart : rest.head? ≠ some '/') : Settled u (path ++ '/' :: rest) := by
  refine ⟨resolved_append_cons_iff.mpr ⟨(resolved_append_cons_iff.mp h.toResolved).1, hrest⟩, ?_⟩
  have hadmitted := h.admitted
  rw [admits_eq_true_iff] at hadmitted ⊢
  match path with
  | [] =>
      cases rest with
      | nil => exact hadmitted
      | cons c rest =>
          have hc : c ≠ '/' := by simpa using hstart
          simp [Ne.symm hc]
  | [c] => simpa using hadmitted
  | c :: d :: path => simpa using hadmitted

/-- The target of a settled address without a query is its path. -/
theorem Settled.target (h : Settled u u.path) (hquery : u.query = none) : Settled u u.target := by
  cases hpath : u.path with
  | nil =>
      have htarget : u.target = [] ++ ['/'] := by simp [Url.target, hpath, hquery, marked]
      rw [htarget]
      exact (hpath ▸ h).slash (by simp)
  | cons c path =>
      have htarget : u.target = u.path := by simp [Url.target, hpath, hquery, marked]
      rwa [htarget]

/-! ## The parts of a text -/

theorem upTo_of_forall {ends cs : List Char} (h : ∀ c ∈ cs, c ∉ ends) : upTo ends cs = (cs, []) := by
  have hkind : ∀ c ∈ cs, (!ends.contains c) = true := by simpa using h
  have hdrop : (cs ++ []).dropWhile (fun c => !ends.contains c) = [] :=
    List.dropWhile_append_of_pos hkind
  rw [List.append_nil] at hdrop
  rw [upTo, takeWhile_of_forall hkind, hdrop]

theorem upTo_append_cons {ends cs : List Char} (h : ∀ c ∈ cs, c ∉ ends) {c : Char} (hc : c ∈ ends)
    (ds : List Char) : upTo ends (cs ++ c :: ds) = (cs, c :: ds) := by
  have hkind : ∀ c ∈ cs, (!ends.contains c) = true := by simpa using h
  have hends : (!ends.contains c) = false := by simpa using hc
  rw [upTo, takeWhile_append_cons hkind hends, List.dropWhile_append_of_pos hkind,
    List.dropWhile_cons_of_neg (by rw [hends]; decide)]

theorem Resolved.ne (h : Resolved u path) {c : Char} (hc : c ∈ path) : c ∉ ['?', '#'] := by
  have hne := ne_of_isKept (h.kept c hc)
  simp [hne.1, hne.2]

/-- A settled path is a target as it stands. -/
theorem withTarget?_of_settled (h : Settled u path) :
    u.withTarget? path = u.withPath? path none := by
  have hmark : ∀ c ∈ path, c ∉ ['?'] := fun c hc => by simp [(ne_of_isKept (h.kept c hc)).1]
  rw [withTarget?, upTo_of_forall hmark]
  rfl

/-- A target with a query gives an address with a query. -/
theorem query_ne_none_of_withTarget? {target : List Char} (hpath : ∀ c ∈ path, c ≠ '?')
    (h : u.withTarget? (path ++ '?' :: target) = some v) : v.query ≠ none := by
  have hmark : ∀ c ∈ path, c ∉ ['?'] := fun c hc => by simp [hpath c hc]
  simp only [withTarget?, upTo_append_cons hmark List.mem_cons_self, splitMarked, if_true] at h
  unfold withPath? at h
  split at h
  · simp at h
  · obtain rfl := Option.some.inj h
    simp

/-! ## The address of a service -/

/-- An address below which others are. -/
structure IsBase (base : Url) : Prop where
  settled : Settled base base.target
  slash : base.target.getLast? = some '/'
  plain : base.query = none

/-- An address made a directory is a base. -/
theorem isBase_of_asDirectory? {base : Url} (h : u.asDirectory? = some base)
    (hsettled : Settled u u.path) (hplain : base.query = none) : IsBase base := by
  rw [asDirectory?] at h
  split at h
  · next hslash =>
    obtain rfl := Option.some.inj h
    exact ⟨hsettled.target hplain, hslash, hplain⟩
  · next hslash =>
    cases hquery : u.query with
    | none =>
        have hpath := (hsettled.target hquery).slash hslash
        rw [withTarget?_of_settled hpath, withPath?_of_settled hpath] at h
        split at h
        · simp at h
        · obtain rfl := Option.some.inj h
          exact ⟨Settled.target ⟨⟨hpath.kept, hpath.dots⟩, hpath.admitted⟩ rfl,
            by simp [Url.target, marked], rfl⟩
    | some query =>
        have htarget : u.target ++ ['/'] =
            (if u.path.isEmpty then ['/'] else u.path) ++ '?' :: (query ++ ['/']) := by
          simp [Url.target, hquery, marked]
        rw [htarget] at h
        refine absurd hplain (query_ne_none_of_withTarget? (fun c hc => ?_) h)
        split at hc
        · rw [List.mem_singleton.mp hc]
          decide
        · exact (ne_of_isKept (hsettled.kept c hc)).1

/-- **The address of a service is a base**, if it has no query. -/
theorem isBase_of_serviceAddress? {text : String} {base : Url} (h : serviceAddress? text = some base)
    (hplain : base.query = none) : IsBase base := by
  obtain ⟨u, hu, hbase⟩ := Option.bind_eq_some_iff.mp h
  exact isBase_of_asDirectory? hbase (settled_parse? hu) hplain

/-! ## Below a service -/

theorem splitScheme_rooted (cs : List Char) : splitScheme ('/' :: cs) = ([], '/' :: cs) := by
  have hscheme : ∀ scheme, isScheme ('/' :: scheme) = false := fun _ => rfl
  rw [splitScheme, upTo, List.takeWhile_cons_of_pos (by decide)]
  split
  · next heq =>
    obtain ⟨rfl, -⟩ := Prod.mk.inj heq
    rw [hscheme, if_neg (by decide)]
  · rfl

theorem splitAuthority_rooted (h : rest.head? ≠ some '/') :
    splitAuthority ('/' :: rest) = ([], '/' :: rest) := by
  unfold splitAuthority
  split
  · next heq =>
    obtain rfl := (List.cons.inj heq).2
    simp at h
  · rfl

/-- A text that begins with one slash is read as a path. -/
theorem parse?_rooted (hkept : ∀ c ∈ rest, isKept pathMarks c = true)
    (hstart : rest.head? ≠ some '/') :
    parse? ('/' :: rest) = if maxLength < rest.length + 1 then none
      else some ⟨[], [], [], none, '/' :: rest, none, none⟩ := by
  have hresolved : Resolved ⟨[], [], [], none, [], none, none⟩ ('/' :: rest) :=
    ⟨List.forall_mem_cons.mpr ⟨by decide, hkept⟩, by simp [hasAuthority]⟩
  have hcontrol : ('/' :: rest).any isControl = false :=
    List.any_eq_false.mpr fun c hc => by simp [not_isControl_of_isKept (hresolved.kept c hc)]
  have hsettled : Settled ⟨[], [], [], none, [], none, none⟩ ('/' :: rest) := by
    refine ⟨hresolved, ?_⟩
    cases rest with
    | nil => rfl
    | cons c rest =>
        have hc : c ≠ '/' := by simpa using hstart
        simp [admits, hasAuthority, hc]
  rw [parse?, hcontrol, Bool.or_false]
  by_cases hlength : maxLength < rest.length + 1
  · simp [hlength]
  · have hparts : upTo ['?', '#'] ('/' :: rest) = ('/' :: rest, []) :=
      upTo_of_forall fun c hc => hresolved.ne hc
    simp only [splitScheme_rooted, splitAuthority_rooted hstart, hparts, List.length_cons, hlength]
    exact (withPath?_of_settled hsettled).trans (by simp [hlength, splitMarked])

/-- **The address of something below a service** has its path, followed by the path below it. -/
theorem extend?_below {base : Url} {parameters : Option (List Char)} (hbase : IsBase base)
    (h : Resolved base rest) (hstart : rest.head? ≠ some '/')
    (hparameters : parameters.any (maxLength < ·.length) = false) :
    base.extend? ('/' :: rest) parameters =
      if maxLength < (base.target ++ rest).length then none
      else some { base with
        path := base.target ++ rest, query := parameters.map (percentKept queryMarks) } := by
  obtain ⟨front, hfront⟩ := List.getLast?_eq_some_iff.mp hbase.slash
  have hpath : base.target ++ rest = front ++ '/' :: rest := by simp [hfront]
  have hsettled : Settled base (base.target ++ rest) := by
    rw [hpath]
    exact (hfront ▸ hbase.settled).goesOn h hstart
  have hrest : (target ⟨[], [], [], none, '/' :: rest, none, none⟩).dropWhile (· == '/') = rest := by
    cases rest with
    | nil => rfl
    | cons c rest =>
        have hc : c ≠ '/' := by simpa using hstart
        simp [target, marked, hc]
  rw [extend?, parse?_rooted h.kept hstart]
  by_cases hlong : maxLength < rest.length + 1
  · have hlonger : maxLength < (base.target ++ rest).length := by
      rw [hpath, List.length_append, List.length_cons]
      omega
    rw [if_pos hlong, if_pos hlonger]
  · rw [if_neg hlong]
    have hbelow : base.withTarget? (base.target ++ rest) =
        if maxLength < (base.target ++ rest).length then none
        else some { base with path := base.target ++ rest, query := none } := by
      rw [withTarget?_of_settled hsettled, withPath?_of_settled hsettled, Option.any_none,
        Bool.or_false, Option.map_none]
      simp only [decide_eq_true_eq]
    simp only [hrest, hbelow]
    by_cases hlength : maxLength < (base.target ++ rest).length
    · rw [if_pos hlength, if_pos hlength]
    · rw [if_neg hlength, if_neg hlength]
      cases parameters with
      | none => rfl
      | some parameters =>
          have hagain : Settled { base with path := base.target ++ rest, query := none }
              (base.target ++ rest) :=
            ⟨⟨hsettled.kept, hsettled.dots⟩, hsettled.admitted⟩
          simp only [withPath?_of_settled hagain, hlength, hparameters]
          simp

end

end SourceAudit.Remote.Url
