import SourceAudit.Proofs.Repository.Reading

/-!
# SourceAudit.Proofs.Repository.Hosts

Which hosts repositories are read from.

* `OnGitHub` — the texts that are addresses on GitHub, as they stand: the SSH address or a page of
  one of the hosts, where case may differ in the letters of ASCII only;
* `afterSshStart?_of_page` — the two forms exclude each other;
* `onGitHub_ssh_iff` — what is read as an SSH address is one if its start is in ASCII;
* `resolve_onGitHub_iff` — a text that names a repository is an address on GitHub, unless it has the
  form of an SSH address with another letter in the place of an `i`.
-/

namespace SourceAudit.Repository

open Text

/-- An address on GitHub. -/
inductive OnGitHub : List Char → Prop
  | ssh (start after : List Char) (hstart : start.map asciiLowerChar = sshStart) :
    OnGitHub (start ++ after)
  | page {cs : List Char} (hpage : Page cs) : OnGitHub cs

/-- A small `i` without its dot, or a capital one with a dot. -/
def isOddI (c : Char) : Bool := c.toNat == 0x130 || c.toNat == 0x131

/-- What stands in front of the first `/`, `?` or `#`. -/
def beforePath (cs : List Char) : List Char := cs.takeWhile fun c => !endsAuthority c

section

variable {letters start cs : List Char} {l c : Char} {r : Repository}

theorem not_isOddI_of_isPlain (h : isPlain c = true) : isOddI c = false := by
  have hcodes : ∀ n ∈ [0x130, 0x131], isPlain (Char.ofNat n) = false := by decide +kernel
  cases hodd : isOddI c with
  | false => rfl
  | true =>
      rw [of_codes (P := fun c => isPlain c = false) hcodes (by simpa [isOddI] using hodd)] at h
      simp at h

/-- What comes after the end of an authority does not count. -/
theorem beforePath_append {as bs : List Char} (h : bs.head?.all endsAuthority = true) :
    beforePath (as ++ bs) = beforePath as := by
  refine takeWhile_append_of_head ?_
  cases bs with
  | nil => rfl
  | cons b bs => simpa using h

theorem beforePath_of_forall (h : ∀ c ∈ cs, endsAuthority c = false) : beforePath cs = cs :=
  takeWhile_of_forall fun c hc => by rw [h c hc, Bool.not_false]

/-! ## SSH addresses -/

/-- A letter of the start is that letter in some case, or an odd `i`. -/
theorem lower_eq_of_isSshLetter (h : isSshLetter l c = true) (hodd : isOddI c = false) :
    asciiLowerChar c = l := by
  simp only [isOddI, Bool.or_eq_false_iff] at hodd
  simpa [isSshLetter, hodd] using h

/-- Letters that match without regard to case are those of the host once they are lowered, unless
one of them is an odd i. -/
theorem map_lower_of_letters (h : List.Forall₂ (fun l c => isSshLetter l c = true) letters start)
    (hodd : ∀ c ∈ start, isOddI c = false) : start.map asciiLowerChar = letters := by
  induction h with
  | nil => rfl
  | cons hc _ ih =>
      obtain ⟨hfirst, hrest⟩ := List.forall_mem_cons.mp hodd
      rw [List.map_cons, lower_eq_of_isSshLetter hc hfirst, ih hrest]

/-- No letter of the start ends an authority. -/
theorem not_endsAuthority_of_letters
    (h : List.Forall₂ (fun l c => isSshLetter l c = true) letters start)
    (hletters : ∀ l ∈ letters, endsAuthority l = false) : ∀ c ∈ start, endsAuthority c = false := by
  have hmarks : ∀ c ∈ ['/', '?', '#'], isOddI c = false ∧ endsAuthority (asciiLowerChar c) = true :=
    forall_of_all (by decide)
  induction h with
  | nil => simp
  | @cons l c letters start hc _ ih =>
      obtain ⟨hfirst, hrest⟩ := List.forall_mem_cons.mp hletters
      refine List.forall_mem_cons.mpr ⟨?_, ih hrest⟩
      cases hend : endsAuthority c with
      | false => rfl
      | true =>
          obtain ⟨hodd, hlower⟩ := hmarks c (by simpa [endsAuthority, or_assoc] using hend)
          rw [lower_eq_of_isSshLetter hc hodd, hfirst] at hlower
          exact hlower.symm

/-- What precedes the path of an SSH address is its start and the owner. -/
theorem beforePath_ssh {owner after : List Char} (hstart : IsSshStart start)
    (howner : isOwner owner = true) :
    beforePath (start ++ (owner ++ '/' :: after)) = start ++ owner := by
  have hplain : ∀ c ∈ owner, endsAuthority c = false := fun c hc => by
    have hchar := (isPart_of_isOwner howner).chars c hc
    simp [endsAuthority, ne_of_kind (d := '/') hchar (by decide),
      ne_of_kind (d := '?') hchar (by decide), ne_of_kind (d := '#') hchar (by decide)]
  have hletters : ∀ l ∈ sshStart, endsAuthority l = false := forall_of_all (by decide)
  have hchars : ∀ c ∈ start ++ owner, endsAuthority c = false := fun c hc =>
    (List.mem_append.mp hc).elim (not_endsAuthority_of_letters hstart hletters c) (hplain c)
  rw [← List.append_assoc, beforePath_append rfl, beforePath_of_forall hchars]

/-! ## Pages -/

/-- There is no odd i in an opening. -/
theorem not_isOddI_of_opening {opening : List Char} (h : Opening opening) :
    ∀ c ∈ opening, isOddI c = false := by
  cases h with
  | bare => simp
  | written controls letters hcontrols hletters =>
      have hplain : ∀ c ∈ letters, isPlain c = true := by
        rcases hletters with h | h <;> exact forall_of_map_lower isPlain_of_letter (by decide) h
      intro c hc
      rcases List.mem_append.mp hc with hc | hc
      · rcases List.mem_append.mp hc with hc | hc
        · have hle := hcontrols c hc
          simp only [isOddI, Bool.or_eq_false_iff, beq_eq_false_iff_ne]
          omega
        · exact not_isOddI_of_isPlain (hplain c hc)
      · exact not_isOddI_of_isPlain (List.all_eq_true.mp (by decide) c hc)

theorem isPlain_of_authority {authority : List Char} (h : Authority authority) :
    ∀ c ∈ authority, isPlain c = true := by
  cases h with
  | mk user host port huser hhost hport =>
      have husers : ∀ user ∈ [[], ['@'], [':', '@']], user.all isPlain = true := by decide
      have hports : ∀ port ∈ [[], [':']], port.all isPlain = true := by decide
      have hall : ∀ h ∈ hosts, h.all isPlain = true := by decide
      intro c hc
      rcases List.mem_append.mp hc with hc | hc
      · rcases List.mem_append.mp hc with hc | hc
        · exact List.all_eq_true.mp (husers user huser) c hc
        · exact forall_of_map_lower isPlain_of_letter (hall _ hhost) rfl c hc
      · exact List.all_eq_true.mp (hports port hport) c hc

/-- What precedes the path of a page is in ASCII. -/
theorem not_isOddI_of_page (h : Page cs) : ∀ c ∈ beforePath cs, isOddI c = false := by
  cases h with
  | mk opening authority after hopening hauthority hafter =>
      intro c hc
      rw [beforePath_append hafter] at hc
      rcases List.mem_append.mp ((List.takeWhile_subset _) hc) with hc | hc
      · exact not_isOddI_of_opening hopening c hc
      · exact not_isOddI_of_isPlain (isPlain_of_authority hauthority c hc)

/-- **No page is an SSH address.** -/
theorem afterSshStart?_of_page (h : Page cs) : afterSshStart? sshStart cs = none := by
  cases h with
  | mk opening authority after hopening hauthority hafter =>
      cases hopening with
      | bare =>
          cases hauthority with
          | mk user host port huser hhost hport =>
              simp only [List.mem_cons, List.not_mem_nil, or_false] at huser
              rcases huser with rfl | rfl | rfl
              · simpa using afterSshStart?_page (.inl rfl) hhost (port ++ after)
              · exact afterSshStart?_eq_none (i := 0) (l := 'g') rfl rfl (by decide)
              · exact afterSshStart?_eq_none (i := 0) (l := 'g') rfl rfl (by decide)
      | written controls letters hcontrols hletters =>
          obtain ⟨c, cs, hcons, hc⟩ : ∃ c cs, controls ++ letters = c :: cs ∧
              asciiLowerChar c ≠ 'g' := by
            cases controls with
            | nil =>
                cases letters with
                | nil => simp at hletters
                | cons c cs =>
                    have hlower : asciiLowerChar c = 'h' :=
                      hletters.elim (fun h => (List.cons.inj h).1) fun h => (List.cons.inj h).1
                    exact ⟨c, cs, rfl, by rw [hlower]; decide⟩
            | cons c cs =>
                refine ⟨c, cs ++ letters, rfl, fun hlower => ?_⟩
                have hplain : isPlain c = true :=
                  of_lower isPlain_of_letter (by rw [hlower]; decide)
                exact Nat.not_le_of_lt (lt_toNat_of_isPlain hplain)
                  (hcontrols c List.mem_cons_self)
          rw [hcons]
          exact afterSshStart?_eq_none (i := 0) (l := 'g') rfl rfl (by simp [isSshLetter, hc])

/-! ## All texts -/

/-- **A text read as an SSH address** is one if its start is in ASCII. -/
theorem onGitHub_ssh_iff {owner name after : List Char} (hstart : IsSshStart start)
    (hssh : ssh? (start ++ (owner ++ '/' :: after)) = some (owner, name)) :
    OnGitHub (start ++ (owner ++ '/' :: after)) ↔ ∀ c ∈ start, isOddI c = false := by
  constructor
  · generalize hwhole : start ++ (owner ++ '/' :: after) = cs at hssh
    rintro (⟨start', after', hstart'⟩ | hpage)
    · have hlength : start.length = start'.length := by
        rw [← hstart.length_eq, ← hstart', List.length_map]
      have hletters := forall_of_map_lower isPlain_of_letter (by decide) hstart'
      rw [List.append_inj_left hwhole hlength]
      exact fun c hc => not_isOddI_of_isPlain (hletters c hc)
    · rw [ssh?, afterSshStart?_of_page hpage] at hssh
      simp at hssh
  · exact fun hodd => .ssh start _ (map_lower_of_letters hstart hodd)

/-- **A text that names a repository is an address on GitHub**, unless an `i` at the start of an SSH
address lacks its dot or is a capital with a dot. -/
theorem resolve_onGitHub_iff {j : Json} (h : resolve j = some r) :
    ∃ s, j.text? = some s ∧
      (OnGitHub (strip s.toList) ↔ (beforePath (strip s.toList)).any isOddI = false) := by
  obtain ⟨s, hs, hread⟩ := Option.bind_eq_some_iff.mp h
  refine ⟨s, hs, ?_⟩
  rw [List.any_eq_false]
  rcases resolveText_eq_some hread with ⟨owner, name, hssh, hbuild⟩ | ⟨-, haddress⟩
  · obtain ⟨start, after, hstart, hcs⟩ := ssh?_eq_some hssh
    have howner := (build?_eq_some_iff.mp hbuild).1
    have hplain : ∀ c ∈ owner, isOddI c = false := fun c hc =>
      not_isOddI_of_isPlain (isPlain_of_isRefChar ((isPart_of_isOwner howner).chars c hc))
    rw [hcs] at hssh
    rw [hcs, beforePath_ssh hstart howner, onGitHub_ssh_iff hstart hssh]
    simp only [Bool.not_eq_true]
    exact ⟨fun hodd c hc => (List.mem_append.mp hc).elim (hodd c) (hplain c),
      fun hodd c hc => hodd c (List.mem_append_left _ hc)⟩
  · have hpage := (ofAddress?_eq_some haddress).2
    simpa [OnGitHub.page hpage] using not_isOddI_of_page hpage

end

end SourceAudit.Repository

namespace SourceAudit.Sample

open Repository

/-- An address on GitHub with all that it may have. -/
theorem resolve_onGitHub_iff_spelledOut :
    resolve (.str " \x00HTTPS://:@WWW.GitHub.com:/O/N?q") = some ⟨"o", "n", none⟩ ∧
      OnGitHub (Text.strip " \x00HTTPS://:@WWW.GitHub.com:/O/N?q".toList) := by
  have hread : resolve (.str " \x00HTTPS://:@WWW.GitHub.com:/O/N?q") = some ⟨"o", "n", none⟩ := by
    decide +kernel
  obtain ⟨s, hs, hhost⟩ := resolve_onGitHub_iff hread
  obtain rfl : _ = s := Option.some.inj hs
  exact ⟨hread, hhost.mpr (by decide +kernel)⟩

/-- The host of this address is not that of GitHub, but a repository is read from it. -/
theorem otherHost_resolves :
    resolve (.str "git@g\u0131thub.com:o/n") = some ⟨"o", "n", none⟩ ∧
      ¬ OnGitHub (Text.strip "git@g\u0131thub.com:o/n".toList) := by
  refine ⟨by decide +kernel, ?_⟩
  generalize hcs : Text.strip "git@g\u0131thub.com:o/n".toList = cs
  rintro (⟨start, after, hstart⟩ | hpage)
  · have hlength : start.length = sshStart.length := by rw [← hstart, List.length_map]
    rw [← List.take_left' hlength, ← hcs] at hstart
    revert hstart
    decide +kernel
  · have hnone := afterSshStart?_of_page hpage
    rw [← hcs] at hnone
    revert hnone
    decide +kernel

end SourceAudit.Sample
