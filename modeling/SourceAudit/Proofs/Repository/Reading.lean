import Mathlib.Data.List.Forall2
import SourceAudit.Proofs.Repository.Spellings

/-!
# SourceAudit.Proofs.Repository.Reading

The readers of locators, backwards: what is known of a text once a repository was read in it.

* `build?_eq_some_iff`, `atPath?_eq_some` — what owner, name and version have passed;
* `afterScheme?_eq_some_iff`, `authority_of_isHost` — what stands in front of the path of a page;
* `ofAddress?_eq_some`, `ssh?_eq_some` — what has the form of a page's address (`Page`), and of an
  SSH address;
* `resolveText_eq_some` — every text that names a repository has one of the two forms;
* `isBuilt_of_resolve` — whatever value names it, the repository was built from valid parts.
-/

namespace SourceAudit.Repository

open Text

/-! ## Owner, name and version -/

/-- **What is built** has a valid owner and a valid name, which are put in lower case. -/
theorem build?_eq_some_iff {owner name : List Char} {ref : Option String} {r : Repository} :
    build? owner name ref = some r ↔
      isOwner owner = true ∧ isName (withoutGit name) = true ∧
        r = ⟨.ofList (owner.map asciiLowerChar),
          .ofList ((withoutGit name).map asciiLowerChar), ref⟩ := by
  by_cases hvalid : (isOwner owner && isName (withoutGit name)) = true
  · obtain ⟨howner, hname⟩ := Bool.and_eq_true_iff.mp hvalid
    simp [build?, howner, hname, eq_comm]
  · have hnone : build? owner name ref = none := if_neg hvalid
    rw [Bool.and_eq_true] at hvalid
    simp only [hnone, reduceCtorEq, false_iff]
    rintro ⟨howner, hname, -⟩
    exact hvalid ⟨howner, hname⟩

/-- A version that is named has segments, and each of them is valid. -/
def IsVersion (ref : Option String) : Prop :=
  ∀ version, ref = some version → ∃ segments : List (List Char), segments ≠ [] ∧
    (∀ segment ∈ segments, isRefSegment segment = true) ∧
      version.toList = joinPieces '/' segments

theorem isVersion_none : IsVersion none := nofun

/-- The repository was built from an owner and a name, with a valid version or none. -/
def IsBuilt (r : Repository) : Prop :=
  IsVersion r.ref ∧ ∃ owner name, build? owner name r.ref = some r

/-- Whatever is built has valid parts in lower case. -/
theorem isBuilt_of_build? {owner name : List Char} {ref : Option String} {r : Repository}
    (href : IsVersion ref) (h : build? owner name ref = some r) : IsBuilt r := by
  obtain ⟨-, -, heq⟩ := build?_eq_some_iff.mp h
  have hsame : r.ref = ref := by rw [heq]
  exact ⟨hsame ▸ href, owner, name, hsame ▸ h⟩

/-! ## Lower case -/

theorem lower_lower (c : Char) : asciiLowerChar (asciiLowerChar c) = asciiLowerChar c := by
  rcases asciiLowerChar_eq_or_mem c with heq | hmem
  · rw [heq, heq]
  · exact of_codes (P := fun c => asciiLowerChar (asciiLowerChar c) = asciiLowerChar c)
      (by decide +kernel) hmem

/-- Lower case stays as it is. -/
theorem map_lower_lower (cs : List Char) :
    (cs.map asciiLowerChar).map asciiLowerChar = cs.map asciiLowerChar := by
  rw [List.map_map]
  exact List.map_congr_left fun c _ => lower_lower c

/-- A set with all letters has the lower case of its characters. -/
theorem to_lower {p : Char → Bool} {c : Char} (hletters : ∀ c, isAsciiLetter c = true → p c = true)
    (h : p c = true) : p (asciiLowerChar c) = true := by
  rcases asciiLowerChar_eq_or c with heq | ⟨-, hletter⟩
  · rwa [heq]
  · exact hletters _ hletter

/-- An owner is valid in either case. -/
theorem isOwner_map_lower {cs : List Char} (h : isOwner cs = true) :
    isOwner (cs.map asciiLowerChar) = true := by
  simp only [isOwner, Bool.and_eq_true, decide_eq_true_eq, List.all_eq_true] at h ⊢
  obtain ⟨⟨hlength, hchars⟩, hfirst⟩ := h
  refine ⟨⟨by simpa using hlength, ?_⟩, ?_⟩
  · simp only [List.mem_map, forall_exists_index, and_imp, forall_apply_eq_imp_iff₂]
    exact fun c hc => to_lower (fun c h => by simp [isOwnerChar, h]) (hchars c hc)
  · cases cs with
    | nil => simp at hfirst
    | cons c cs =>
        simp only [List.head?_cons, Option.any_some, decide_eq_true_eq] at hfirst
        simpa using of_decide_eq_true (to_lower (p := fun c => decide (c ≠ '-'))
          (fun c h => decide_eq_true (ne_of_kind h (by decide))) (by simpa using hfirst))

theorem isName_map_lower {cs : List Char} (h : isName cs = true) :
    isName (cs.map asciiLowerChar) = true := by
  simp only [isName, Bool.and_eq_true, decide_eq_true_eq, List.all_eq_true] at h ⊢
  obtain ⟨⟨⟨⟨hlength, hchars⟩, hsome⟩, hdot⟩, hdots⟩ := h
  refine ⟨⟨⟨⟨by simpa using hlength, ?_⟩, by simpa using hsome⟩, ?_⟩, ?_⟩
  · simp only [List.mem_map, forall_exists_index, and_imp, forall_apply_eq_imp_iff₂]
    exact fun c hc => to_lower (fun c h => by simp [isNameChar, isOwnerChar, h]) (hchars c hc)
  · exact fun heq => hdot (eq_of_map_lower (by decide) heq)
  · exact fun heq => hdots (eq_of_map_lower (by decide) heq)

namespace IsBuilt

variable {r : Repository} (h : IsBuilt r)
include h

/-- The owner of a repository that was built is valid, and so is its name; both are in lower
case. -/
theorem owner_valid : isOwner r.owner.toList = true := by
  obtain ⟨-, owner, name, hbuild⟩ := h
  obtain ⟨howner, -, heq⟩ := build?_eq_some_iff.mp hbuild
  rw [heq, String.toList_ofList]
  exact isOwner_map_lower howner

theorem name_valid : isName r.name.toList = true := by
  obtain ⟨-, owner, name, hbuild⟩ := h
  obtain ⟨-, hname, heq⟩ := build?_eq_some_iff.mp hbuild
  rw [heq, String.toList_ofList]
  exact isName_map_lower hname

theorem owner_lower : r.owner.toList.map asciiLowerChar = r.owner.toList := by
  obtain ⟨-, owner, name, hbuild⟩ := h
  rw [(build?_eq_some_iff.mp hbuild).2.2, String.toList_ofList, map_lower_lower]

theorem name_lower : r.name.toList.map asciiLowerChar = r.name.toList := by
  obtain ⟨-, owner, name, hbuild⟩ := h
  rw [(build?_eq_some_iff.mp hbuild).2.2, String.toList_ofList, map_lower_lower]

end IsBuilt

/-! ## Paths -/

/-- What is read from a path is built from its first segments. -/
theorem atPath?_eq_some {path : List Char} {r : Repository} (h : atPath? path = some r) :
    IsBuilt r := by
  simp only [atPath?] at h
  split at h
  · simp at h
  · split at h
    · exact isBuilt_of_build? isVersion_none h
    · next owner name tree ref hparts =>
      split at h
      · next hvalid =>
        obtain ⟨-, hne, hall⟩ := hvalid
        refine isBuilt_of_build? ?_ h
        intro version hversion
        obtain rfl := Option.some.inj hversion
        exact ⟨ref, hne, List.all_eq_true.mp hall, String.toList_ofList⟩
      · simp at h
    · simp at h

/-! ## The form of a page's address -/

/-- How the address of a page opens: with nothing, or with a scheme in any case, before which
control characters do not count. -/
inductive Opening : List Char → Prop
  | bare : Opening []
  | written (controls letters : List Char) (hcontrols : ∀ c ∈ controls, c.toNat ≤ 0x20)
    (hletters : letters.map asciiLowerChar = "http".toList ∨
      letters.map asciiLowerChar = "https".toList) :
    Opening (controls ++ letters ++ "://".toList)

/-- A host of pages in any case. Before it there may be an `@` with nobody in front, and after it a
colon with no number. -/
inductive Authority : List Char → Prop
  | mk (user host port : List Char) (huser : user ∈ [[], ['@'], [':', '@']])
    (hhost : host.map asciiLowerChar ∈ hosts) (hport : port ∈ [[], [':']]) :
    Authority (user ++ host ++ port)

/-- The address of a page: after the host there is nothing, or a path, a query or a fragment. -/
inductive Page : List Char → Prop
  | mk (opening authority after : List Char) (hopening : Opening opening)
    (hauthority : Authority authority) (hafter : after.head?.all endsAuthority = true) :
    Page (opening ++ authority ++ after)

/-- What follows the scheme of an address names a repository. -/
def ofRest? (rest : List Char) : Option Repository :=
  let authority := rest.takeWhile fun c => !endsAuthority c
  if isHost authority then
    atPath? ((rest.drop authority.length).takeWhile fun c => c ≠ '?' && c ≠ '#')
  else none

section

variable {cs rest authority : List Char} {r : Repository}

/-- With a mark of a scheme, the scheme is read first. -/
theorem ofAddress?_of_mark (h : hasSchemeMark cs = true) :
    ofAddress? cs = (afterScheme? cs).bind ofRest? := by
  rw [ofAddress?, if_pos h]
  rfl

/-- Without one, the whole text is read, unless it begins where a host should be. -/
theorem ofAddress?_of_bare (h : hasSchemeMark cs = false)
    (hstart : cs.head?.any endsAuthority = false) : ofAddress? cs = ofRest? cs := by
  have hscheme : afterScheme? ("https".toList ++ "://".toList ++ cs) = some cs :=
    afterScheme?_append (.inr (by decide)) cs
  rw [ofAddress?, if_neg (by simp [h]), if_neg (by simp [hstart]), Option.bind_some,
    show "https://".toList ++ cs = "https".toList ++ "://".toList ++ cs from rfl, hscheme]
  rfl

/-- **What follows the scheme of an address.** -/
theorem afterScheme?_eq_some_iff :
    afterScheme? cs = some rest ↔ ∃ opening, Opening opening ∧ opening ≠ [] ∧
      cs = opening ++ rest := by
  constructor
  · intro h
    have hcontrols : ∀ c ∈ cs.takeWhile fun c => decide (c.toNat ≤ 0x20), c.toNat ≤ 0x20 :=
      fun c hc => of_decide_eq_true (List.all_eq_true.mp List.all_takeWhile c hc)
    have hcs := List.takeWhile_append_dropWhile (p := fun c : Char => decide (c.toNat ≤ 0x20))
      (l := cs)
    simp only [afterScheme?] at h
    generalize cs.takeWhile (fun c => decide (c.toNat ≤ 0x20)) = controls at hcontrols hcs
    generalize cs.dropWhile (fun c => decide (c.toNat ≤ 0x20)) = text at h hcs
    have htext := List.prefix_iff_eq_append.mp (List.takeWhile_prefix (fun c => decide (c ≠ ':'))
      (l := text))
    split at h
    · next hletters =>
      split at h
      · next after hafter =>
        obtain rfl := Option.some.inj h
        rw [hafter] at htext
        refine ⟨_, .written controls _ hcontrols hletters, by simp, ?_⟩
        calc cs = controls ++ (text.takeWhile (fun c => decide (c ≠ ':')) ++
              ':' :: '/' :: '/' :: after) := by rw [htext, hcs]
          _ = controls ++ text.takeWhile (fun c => decide (c ≠ ':')) ++ "://".toList ++ after := by
            simp
      · simp at h
    · simp at h
  · rintro ⟨_, hopening, hne, rfl⟩
    cases hopening with
    | bare => exact absurd rfl hne
    | written controls letters hcontrols hletters =>
        have hskip : ∀ as, afterScheme? (controls ++ as) = afterScheme? as := fun as => by
          simp only [afterScheme?, List.dropWhile_append_of_pos
            (fun c hc => decide_eq_true (hcontrols c hc))]
        rw [List.append_assoc, List.append_assoc, hskip, ← List.append_assoc]
        exact afterScheme?_append hletters rest

/-- **A host is one of the hosts.** -/
theorem authority_of_isHost (h : isHost authority = true) : Authority authority := by
  have hpart : (authority.reverse.takeWhile fun c => decide (c ≠ '@')).reverse <:+ authority := by
    rw [← List.reverse_prefix, List.reverse_reverse]
    exact List.takeWhile_prefix _
  simp only [isHost] at h
  generalize (authority.reverse.takeWhile fun c => decide (c ≠ '@')).reverse = part at h hpart
  have hauthority := List.suffix_iff_eq_append.mp hpart
  have hcolon := List.prefix_iff_eq_append.mp (List.takeWhile_prefix (fun c => decide (c ≠ ':'))
    (l := part))
  simp only [Bool.and_eq_true, Bool.or_eq_true, decide_eq_true_eq, List.contains_iff_mem] at h
  obtain ⟨⟨huser, hport⟩, hhost⟩ := h
  generalize authority.take (authority.length - part.length) = user at hauthority huser
  rw [← hauthority, ← hcolon, ← List.append_assoc]
  exact .mk _ _ _ (by simpa [or_assoc] using huser) hhost (by simpa using hport)

/-- What is read behind the scheme is a host and a path. -/
theorem ofRest?_eq_some (h : ofRest? rest = some r) :
    IsBuilt r ∧ ∃ authority after, Authority authority ∧ after.head?.all endsAuthority = true ∧
      rest = authority ++ after := by
  simp only [ofRest?] at h
  split at h
  · next hhost =>
    have hcut := List.takeWhile_append_dropWhile (p := fun c => !endsAuthority c) (l := rest)
    have hafter := List.head?_dropWhile_not (fun c => !endsAuthority c) rest
    refine ⟨atPath?_eq_some h, _, _, authority_of_isHost hhost, ?_, hcut.symm⟩
    cases hhead : (rest.dropWhile fun c => !endsAuthority c).head? with
    | none => rfl
    | some c => simpa [hhead] using hafter
  · simp at h

/-- **A text in which a page was read** has the form of its address. -/
theorem ofAddress?_eq_some (h : ofAddress? cs = some r) : IsBuilt r ∧ Page cs := by
  cases hmark : hasSchemeMark cs with
  | true =>
      rw [ofAddress?_of_mark hmark] at h
      obtain ⟨rest, hrest, hread⟩ := Option.bind_eq_some_iff.mp h
      obtain ⟨opening, hopening, -, rfl⟩ := afterScheme?_eq_some_iff.mp hrest
      obtain ⟨hbuilt, authority, after, hauthority, hafter, rfl⟩ := ofRest?_eq_some hread
      rw [← List.append_assoc]
      exact ⟨hbuilt, .mk opening authority after hopening hauthority hafter⟩
  | false =>
      cases hstart : cs.head?.any endsAuthority with
      | true => simp [ofAddress?, hmark, hstart] at h
      | false =>
          rw [ofAddress?_of_bare hmark hstart] at h
          obtain ⟨hbuilt, authority, after, hauthority, hafter, rfl⟩ := ofRest?_eq_some h
          exact ⟨hbuilt, .mk [] authority after .bare hauthority hafter⟩

end

/-! ## The form of an SSH address -/

/-- Characters that pass for the start of an SSH address. -/
def IsSshStart (start : List Char) : Prop :=
  List.Forall₂ (fun l c => isSshLetter l c = true) sshStart start

/-- The start of an SSH address is matched letter by letter. -/
theorem afterSshStart?_eq_some {letters cs rest : List Char}
    (h : afterSshStart? letters cs = some rest) :
    ∃ start, List.Forall₂ (fun l c => isSshLetter l c = true) letters start ∧
      cs = start ++ rest := by
  induction letters generalizing cs with
  | nil => exact ⟨[], .nil, Option.some.inj h⟩
  | cons l letters ih =>
      cases cs with
      | nil => simp [afterSshStart?] at h
      | cons c cs =>
          rw [afterSshStart?] at h
          split at h
          · next hc =>
            obtain ⟨start, hstart, rfl⟩ := ih h
            exact ⟨c :: start, .cons hc hstart, rfl⟩
          · simp at h

/-- **A text in which an SSH address was read** starts like one; the owner stands before the next
slash. -/
theorem ssh?_eq_some {cs owner name : List Char} (h : ssh? cs = some (owner, name)) :
    ∃ start after, IsSshStart start ∧ cs = start ++ (owner ++ '/' :: after) := by
  cases hstart : afterSshStart? sshStart cs with
  | none => simp [ssh?, hstart] at h
  | some rest =>
      obtain ⟨start, hmatch, rfl⟩ := afterSshStart?_eq_some hstart
      have hrest := joinPieces_piecesBetween '/' rest
      simp only [ssh?, hstart, Option.map_some] at h
      split at h
      · next hpieces =>
        rw [Option.some.inj hpieces] at hrest
        split at h
        · simp at h
        · simp only [Option.some.injEq, Prod.mk.injEq] at h
          exact ⟨start, _, hmatch, by rw [← hrest, ← h.1]; rfl⟩
      · next hpieces =>
        rw [Option.some.inj hpieces] at hrest
        split at h
        · simp at h
        · simp only [Option.some.injEq, Prod.mk.injEq] at h
          exact ⟨start, _, hmatch, by rw [← hrest, ← h.1]; rfl⟩
      · simp at h

/-! ## All texts -/

/-- **A text that names a repository** has, after trimming, the form of an SSH address or of the
address of a page. -/
theorem resolveText_eq_some {s : String} {r : Repository} (h : resolveText s = some r) :
    (∃ owner name, ssh? (strip s.toList) = some (owner, name) ∧ build? owner name none = some r) ∨
      (ssh? (strip s.toList) = none ∧ ofAddress? (strip s.toList) = some r) := by
  simp only [resolveText] at h
  split at h
  · simp at h
  · split at h
    · next owner name hssh => exact .inl ⟨owner, name, hssh, h⟩
    · next hssh => exact .inr ⟨hssh, h⟩

/-- Nothing is read from a text with a backslash. -/
theorem notMem_of_resolveText {s : String} {r : Repository} (h : resolveText s = some r) :
    '\\' ∉ strip s.toList := by
  simp only [resolveText] at h
  split at h
  · simp at h
  · next hplain => exact fun hmem => hplain (by simp [hmem])

/-- A text without blanks and backslashes that is no SSH address is read as it stands. -/
theorem resolve_of_page {j : Json} {s : String} (hs : j.text? = some s) (hne : s.toList ≠ [])
    (hchars : ∀ c ∈ s.toList, isBlank c = false ∧ c ≠ '\\')
    (hlength : s.length ≤ maxLocatorLength) (hssh : ssh? s.toList = none) :
    resolve j = ofAddress? s.toList := by
  have hread : resolveText (.ofList ([] ++ s.toList ++ [])) = _ :=
    resolveText_core (by simp) hchars hne (by simp) (by simpa [String.length_toList] using hlength)
  rw [hssh, List.nil_append, List.append_nil, String.ofList_toList] at hread
  rw [resolve, hs, Option.bind_some, hread]

/-- **Whatever is resolved is built from valid parts.** -/
theorem isBuilt_of_resolve {j : Json} {r : Repository} (h : resolve j = some r) : IsBuilt r := by
  obtain ⟨s, -, hs⟩ := Option.bind_eq_some_iff.mp h
  rcases resolveText_eq_some hs with ⟨owner, name, -, hbuild⟩ | ⟨-, haddress⟩
  · exact isBuilt_of_build? isVersion_none hbuild
  · exact (ofAddress?_eq_some haddress).1

end SourceAudit.Repository
