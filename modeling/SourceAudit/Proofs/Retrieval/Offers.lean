import Mathlib.Data.List.Basic
import SourceAudit.Retrieval.Fetch

/-!
# SourceAudit.Proofs.Retrieval.Offers

What the directories of a repository offer for a search, and what a listing takes of it: whichever
way the directories come, the first files that they offer, as many as allowed.

* `Directory.offers` — the files to be searched that the entries of a directory state;
* `addAll_eq` and `addDirectory_eq` — what is added of a directory to a listing;
* `Walked` and `Received` — the directories that arrive in a walk and in a listing, as the answers
  give them;
* `walk_of_walked` and `ofVersion_of_received` — the listing made of the directories received.
-/

namespace SourceAudit.Retrieval

open Remote

/-- A directory as listed: how the paths in it start, and its entries. -/
structure Directory where
  inside : Json
  entries : List Json

namespace Listing

/-! ## Entries -/

/-- The file to be searched that an entry with a path stands for, if it does for one. -/
def offerAt? (entry : List (String × Json)) (path : Json) : Option Candidate :=
  if hasType entry "blob" then
    (path.text?.filter isScannable).map fun text =>
      ⟨text, (size? (Json.lookup entry "size")).getD 0, path.isBroken⟩
  else none

/-- The file to be searched that an entry of a directory states. -/
def offer? (inside : Json) : Json → Option Candidate
  | .obj entry => (inside.append? (pathOf entry)).bind (offerAt? entry)
  | _ => none

/-- The directory to be listed that an entry of a directory states. -/
def subdirectory? (inside : Json) : Json → Option Pending
  | .obj entry =>
    if hasType entry "tree" && !isSkipped (Json.lookup entry "path") then do
      let path ← inside.append? (pathOf entry)
      let version ← Json.lookup entry "sha"
      some ⟨version, (path.append? (.str "/")).getD path⟩
    else none
  | _ => none

end Listing

namespace Directory

open Listing

/-- The files to be searched in a directory. -/
def offers (d : Directory) : List Candidate := d.entries.filterMap (offer? d.inside)

/-- The directories to be listed in a directory. -/
def below (d : Directory) : List Pending := d.entries.filterMap (subdirectory? d.inside)

/-- Can every entry of the directory be read? A file to be searched must have a size, and a
directory to be listed a version. -/
def Readable (d : Directory) : Prop :=
  ∀ e ∈ d.entries, ∃ entry path, e = .obj entry ∧ d.inside.append? (pathOf entry) = some path ∧
    (hasType entry "tree" = true → isSkipped (Json.lookup entry "path") = false →
      Json.lookup entry "sha" ≠ none) ∧
    (hasType entry "blob" = true → path.text? ≠ none ∧ size? (Json.lookup entry "size") ≠ none)

end Directory

namespace Listing

/-- The files to be searched in several directories. -/
def offered (directories : List Directory) : List Candidate :=
  directories.flatMap Directory.offers

/-- The listing of the first files found, as many as allowed. -/
def first (cap : Nat) (found : List Candidate) : Listing :=
  ⟨found.take cap, decide (cap < found.length)⟩

section

variable {limits : Limits} {entry : List (String × Json)} {path inside : Json}
  {found : List Candidate} {entries : List Json} {l : Listing}

theorem first_nil (cap : Nat) : first cap [] = empty := by
  simp [first, empty]

theorem first_of_le {cap : Nat} (h : found.length ≤ cap) : first cap found = ⟨found, false⟩ := by
  rw [first, List.take_of_length_le h, decide_eq_false (Nat.not_lt.mpr h)]

/-- What is found after there are too many files makes no difference. -/
theorem first_append_of_lt {cap : Nat} (h : cap < found.length) (more : List Candidate) :
    first cap (found ++ more) = first cap found := by
  have hmore : cap < (found ++ more).length := by
    rw [List.length_append]
    omega
  rw [first, first, List.take_append_of_le_length (Nat.le_of_lt h), decide_eq_true h,
    decide_eq_true hmore]

/-- An entry is added as the file that it stands for, and the listing goes on unless there are too
many then. -/
theorem first_of_consider {more : Bool} (hroom : found.length ≤ limits.maxFiles.toNat)
    (h : consider limits entry path (first limits.maxFiles.toNat found) = some (more, l)) :
    l = first limits.maxFiles.toNat (found ++ (offerAt? entry path).toList) ∧
      more = !l.truncated := by
  have hsame := first_of_le hroom
  rw [hsame] at h
  unfold consider at h
  unfold offerAt?
  by_cases hblob : hasType entry "blob" = true
  swap
  · simp only [hblob, Bool.not_false, if_true, Option.some.injEq, Prod.mk.injEq] at h
    obtain ⟨rfl, rfl⟩ := h
    simp [hblob, hsame]
  simp only [hblob, Bool.not_true, Bool.false_eq_true, if_false, if_true] at h ⊢
  cases htext : path.text? with
  | none => simp [htext] at h
  | some text =>
      simp only [htext] at h
      by_cases hscan : isScannable text = true
      swap
      · simp only [hscan, Bool.not_false, if_true, Option.some.injEq, Prod.mk.injEq] at h
        obtain ⟨rfl, rfl⟩ := h
        simp [Option.filter_some, hscan, hsame]
      simp only [hscan, Bool.not_true, Bool.false_eq_true, if_false, Option.filter_some, if_true,
        Option.map_some, Option.toList_some] at h ⊢
      split at h
      · next hfull =>
        obtain ⟨rfl, rfl⟩ := Prod.mk.inj (Option.some.inj h)
        have hcap : limits.maxFiles.toNat = found.length := by omega
        simp [first, hcap]
      · next hmore =>
        obtain ⟨size, hsize, heq⟩ := Option.map_eq_some_iff.mp h
        obtain ⟨rfl, rfl⟩ := Prod.mk.inj heq
        rw [first_of_le (by rw [List.length_append, List.length_singleton]; omega), hsize]
        exact ⟨rfl, rfl⟩

/-- The listing of the entries up to the first one too many, or of all of them. -/
theorem first_of_rest {f : Option Candidate} {rest : List Candidate} {cap : Nat}
    (h : (first cap (found ++ f.toList)).truncated = true) :
    first cap (found ++ f.toList) = first cap (found ++ (f.toList ++ rest)) := by
  rw [← List.append_assoc, first_append_of_lt (of_decide_eq_true h)]

/-! ## Directories -/

/-- A directory offers its entries in turn. -/
theorem offers_cons (inside e : Json) (entries : List Json) :
    Directory.offers ⟨inside, e :: entries⟩ =
      (offer? inside e).toList ++ Directory.offers ⟨inside, entries⟩ := by
  cases h : offer? inside e <;> simp [Directory.offers, h]

/-- What is below a directory comes in the order of its entries. -/
theorem below_cons (inside e : Json) (entries : List Json) :
    Directory.below ⟨inside, e :: entries⟩ =
      (subdirectory? inside e).toList ++ Directory.below ⟨inside, entries⟩ := by
  cases h : subdirectory? inside e <;> simp [Directory.below, h]

theorem empty_append (j : Json) : (Json.str "").append? j = j.text?.map fun _ => j := by
  cases j <;> simp [Json.append?, Json.codes?, Json.text?]

/-- In a listing of everything, paths stand as they are. -/
theorem offer_empty (entry : List (String × Json)) :
    offer? (.str "") (.obj entry) = offerAt? entry (pathOf entry) := by
  rw [offer?, empty_append]
  cases htext : (pathOf entry).text? <;> simp [offerAt?, htext]

/-- **A listing of everything** takes the first files that it states. -/
theorem addAll_eq (hroom : found.length ≤ limits.maxFiles.toNat)
    (h : addAll limits entries (first limits.maxFiles.toNat found) = some l) :
    l = first limits.maxFiles.toNat (found ++ Directory.offers ⟨.str "", entries⟩) := by
  induction entries generalizing found with
  | nil => simpa [addAll, Directory.offers] using h.symm
  | cons e entries ih =>
      cases e with
      | obj entry =>
          rw [addAll] at h
          rw [offers_cons, offer_empty]
          split at h
          · simp at h
          · next l' hconsider =>
            obtain ⟨rfl, hmore⟩ := first_of_consider hroom hconsider
            have hnext : (found ++ (offerAt? entry (pathOf entry)).toList).length ≤
                limits.maxFiles.toNat := by
              simpa [first] using hmore
            rw [ih hnext h, List.append_assoc]
          · next l' hconsider =>
            obtain ⟨rfl, hmore⟩ := first_of_consider hroom hconsider
            rw [← Option.some.inj h]
            exact first_of_rest (by simpa using hmore.symm)
      | _ => simp [addAll] at h

theorem hasType_blob_of_tree (h : hasType entry "tree" = true) : hasType entry "blob" = false := by
  unfold hasType at h ⊢
  split at h
  · simp_all
  · simp at h

/-- **A listing of one directory** adds the files in it, and the directories in it to those yet to
come unless there are too many files then. -/
theorem addDirectory_eq {pending pending' : List Pending}
    (hroom : found.length ≤ limits.maxFiles.toNat)
    (h : addDirectory limits inside entries pending (first limits.maxFiles.toNat found) =
      some (pending', l)) :
    l = first limits.maxFiles.toNat (found ++ Directory.offers ⟨inside, entries⟩) ∧
      (l.truncated = false → pending' = pending ++ Directory.below ⟨inside, entries⟩) := by
  induction entries generalizing found pending with
  | nil =>
      obtain ⟨rfl, rfl⟩ := Prod.mk.inj (Option.some.inj h)
      simp [Directory.offers, Directory.below]
  | cons e entries ih =>
      cases e with
      | obj entry =>
          rw [addDirectory] at h
          rw [offers_cons, below_cons]
          split at h
          swap
          · simp at h
          next path hpath =>
          by_cases htree : hasType entry "tree" = true
          · have hoffer : offer? inside (.obj entry) = none := by
              simp [offer?, offerAt?, hpath, hasType_blob_of_tree htree]
            rw [if_pos htree] at h
            rw [hoffer]
            split at h
            · next hskip =>
              have hsub : subdirectory? inside (.obj entry) = none := by
                simp [subdirectory?, hskip]
              rw [hsub]
              exact ih hroom h
            · next hskip =>
              split at h
              · simp at h
              · next version hversion =>
                have hsub : subdirectory? inside (.obj entry) =
                    some ⟨version, (path.append? (.str "/")).getD path⟩ := by
                  simp [subdirectory?, htree, hskip, hpath, hversion]
                rw [hsub]
                simpa using ih hroom h
          · have hoffer : offer? inside (.obj entry) = offerAt? entry path := by
              simp [offer?, hpath]
            have hsub : subdirectory? inside (.obj entry) = none := by
              simp [subdirectory?, htree]
            rw [if_neg htree] at h
            rw [hoffer, hsub]
            split at h
            · simp at h
            · next l' hconsider =>
              obtain ⟨rfl, hmore⟩ := first_of_consider hroom hconsider
              have hnext : (found ++ (offerAt? entry path).toList).length ≤
                  limits.maxFiles.toNat := by
                simpa [first] using hmore
              simpa using ih hnext h
            · next l' hconsider =>
              obtain ⟨rfl, hmore⟩ := first_of_consider hroom hconsider
              obtain ⟨rfl, rfl⟩ := Prod.mk.inj (Option.some.inj h)
              rw [← first_of_rest (by simpa using hmore.symm)]
              exact ⟨rfl, fun hall => by simp [hall] at hmore⟩
      | _ => simp [addDirectory] at h

/-- An entry can be considered if what is read of it, for a file, can be read. -/
theorem consider_isSome (limits : Limits) (l : Listing)
    (h : hasType entry "blob" = true →
      path.text? ≠ none ∧ size? (Json.lookup entry "size") ≠ none) :
    (consider limits entry path l).isSome = true := by
  unfold consider
  by_cases hblob : hasType entry "blob" = true
  · obtain ⟨htext, hsize⟩ := h hblob
    obtain ⟨text, htext⟩ := Option.ne_none_iff_exists'.mp htext
    obtain ⟨size, hsize⟩ := Option.ne_none_iff_exists'.mp hsize
    simp only [hblob, htext, hsize]
    grind
  · simp [hblob]

/-- A directory that can be read can be added. -/
theorem addDirectory_isSome (limits : Limits) (pending : List Pending) (l : Listing)
    (h : Directory.Readable ⟨inside, entries⟩) :
    (addDirectory limits inside entries pending l).isSome = true := by
  induction entries generalizing pending l with
  | nil => rfl
  | cons e entries ih =>
      obtain ⟨he, hrest⟩ := List.forall_mem_cons.mp h
      obtain ⟨entry, path, rfl, hpath, htree, hblob⟩ := he
      have ih' := fun pending l => ih pending l hrest
      have hconsider := consider_isSome limits l hblob
      rw [addDirectory]
      simp only [hpath]
      grind

/-- A listing of everything that can be read can be added. -/
theorem addAll_isSome (limits : Limits) (l : Listing) (h : Directory.Readable ⟨.str "", entries⟩) :
    (addAll limits entries l).isSome = true := by
  induction entries generalizing l with
  | nil => rfl
  | cons e entries ih =>
      obtain ⟨he, hrest⟩ := List.forall_mem_cons.mp h
      obtain ⟨entry, path, rfl, hpath, -, hblob⟩ := he
      obtain ⟨text, -, rfl⟩ := Option.map_eq_some_iff.mp (empty_append _ ▸ hpath)
      have ih' := fun l => ih l hrest
      have hconsider := consider_isSome limits l hblob
      rw [addAll]
      grind

end

/-! ## Directories that arrive -/

section

variable (c : Client) (repo : Repository) (cap : Nat)

/-- The directories that arrive in a walk through those pending, with `n` files found before: all of
them in turn, and those below them, until more files are found than allowed. -/
inductive Walked : List Pending → (n : Nat) → Session → List Directory → Session → Prop
  | done (n : Nat) (s : Session) : Walked [] n s [] s
  | full {n : Nat} (h : cap < n) (pending : List Pending) (s : Session) : Walked pending n s [] s
  | step {n : Nat} {p : Pending} {pending : List Pending} {s s' s'' : Session}
      {answer : List (String × Json)} {entries : List Json} {ds : List Directory} (h : n ≤ cap)
      (htree : c.tree repo p.version false s = (.ok (some (.obj answer)), s'))
      (hentries : entries? answer = some entries)
      (hrest : Walked (pending ++ Directory.below ⟨p.inside, entries⟩)
        (n + (Directory.offers ⟨p.inside, entries⟩).length) s' ds s'') :
      Walked (p :: pending) n s (⟨p.inside, entries⟩ :: ds) s''

/-- The directories that arrive in the listing of a version. One answer may list everything, as one
directory; a repository without any is empty. -/
inductive Received (version : Json) (s : Session) : List Directory → Session → Prop
  | empty {s' : Session} (htree : c.tree repo version true s = (.ok none, s')) :
      Received version s [] s'
  | whole {s' : Session} {answer : List (String × Json)} {entries : List Json}
      (htree : c.tree repo version true s = (.ok (some (.obj answer)), s'))
      (hwhole : (Json.lookup answer "truncated").any Json.isTruthy = false)
      (hentries : entries? answer = some entries) : Received version s [⟨.str "", entries⟩] s'
  | walked {s' s'' : Session} {answer : List (String × Json)} {root : Json} {ds : List Directory}
      (htree : c.tree repo version true s = (.ok (some (.obj answer)), s'))
      (hcut : (Json.lookup answer "truncated").any Json.isTruthy = true)
      (hroot : Json.lookup answer "sha" = some root)
      (hwalk : Walked c repo cap [⟨root, .str ""⟩] 0 s' ds s'') : Received version s ds s''

end

section

variable {c : Client} {repo : Repository} {limits : Limits} {version : Json} {s s' : Session}
  {ds : List Directory}

/-- A walk with too many files is over. -/
theorem walk_of_truncated (pending : List Pending) {l : Listing} (h : l.truncated = true)
    (s : Session) : walk c repo limits pending l s = some (.ok l, s) := by
  rw [walk.eq_def]
  cases pending <;> simp [h]

/-- No directory arrives once there are too many files. -/
theorem Walked.of_lt {cap n : Nat} {pending : List Pending}
    (h : Walked c repo cap pending n s ds s') (hn : cap < n) : ds = [] ∧ s' = s := by
  cases h with
  | done => exact ⟨rfl, rfl⟩
  | full => exact ⟨rfl, rfl⟩
  | step h => exact absurd hn (Nat.not_lt.mpr h)

/-- **A walk takes the first files of the directories that arrive**, if they can be read. -/
theorem walk_of_walked {pending : List Pending} {found : List Candidate}
    (h : Walked c repo limits.maxFiles.toNat pending found.length s ds s') :
    walk c repo limits pending (first limits.maxFiles.toNat found) s =
        some (.ok (first limits.maxFiles.toNat (found ++ offered ds)), s') ∨
      (∃ s'', walk c repo limits pending (first limits.maxFiles.toNat found) s =
        some (.error unusable, s'')) ∧ ∃ d ∈ ds, ¬ d.Readable := by
  generalize hn : found.length = n at h
  induction h generalizing found with
  | done n s => exact Or.inl (by simp [walk.eq_def, offered])
  | full h pending s =>
      subst hn
      refine Or.inl ?_
      simpa [offered] using walk_of_truncated pending (decide_eq_true h) s
  | @step n p pending s s' s'' answer entries ds h htree hentries hrest ih =>
      subst hn
      have hroom := first_of_le h
      rw [walk.eq_def]
      simp only [congrArg truncated hroom, Bool.false_eq_true, if_false, htree, hentries,
        Option.bind_some]
      cases hadd : addDirectory limits p.inside entries pending
          (first limits.maxFiles.toNat found) with
      | none =>
          refine Or.inr ⟨⟨_, rfl⟩, _, List.mem_cons_self, fun hreadable => ?_⟩
          simpa [hadd] using addDirectory_isSome limits pending
            (first limits.maxFiles.toNat found) hreadable
      | some next =>
          obtain ⟨pending', l⟩ := next
          obtain ⟨rfl, hpending⟩ := addDirectory_eq h hadd
          have hoffered : found ++ offered (⟨p.inside, entries⟩ :: ds) =
              found ++ Directory.offers ⟨p.inside, entries⟩ ++ offered ds := by
            simp [offered]
          rw [hoffered]
          by_cases hmore : limits.maxFiles.toNat <
              (found ++ Directory.offers ⟨p.inside, entries⟩).length
          · -- What is pending then makes no difference.
            rw [← List.length_append] at hrest
            obtain ⟨rfl, rfl⟩ := hrest.of_lt hmore
            rw [first_append_of_lt hmore]
            exact Or.inl (walk_of_truncated pending' (decide_eq_true hmore) _)
          · obtain rfl := hpending (decide_eq_false hmore)
            rcases ih List.length_append with hok | ⟨herror, d, hd, hreadable⟩
            · exact Or.inl hok
            · exact Or.inr ⟨herror, d, List.mem_cons_of_mem _ hd, hreadable⟩

/-- **A listing takes the first files of the directories that arrive**, if they can be read. -/
theorem ofVersion_of_received (h : Received c repo limits.maxFiles.toNat version s ds s') :
    (∃ listed, ofVersion c repo limits version s = (.ok listed, s') ∧
        listed.getD .empty = first limits.maxFiles.toNat (offered ds) ∧
        (listed = none → (c.tree repo version true s).1 = .ok none)) ∨
      (∃ s'', ofVersion c repo limits version s = (.error unusable, s'')) ∧
        ∃ d ∈ ds, ¬ d.Readable := by
  unfold ofVersion
  cases h with
  | empty htree =>
      rw [htree]
      exact Or.inl ⟨none, rfl, (first_nil _).symm, fun _ => rfl⟩
  | @whole s' answer entries htree hwhole hentries =>
      rw [htree]
      simp only [hwhole, Bool.false_eq_true, if_false, hentries, Option.bind_some]
      cases hadd : addAll limits entries .empty with
      | none =>
          refine Or.inr ⟨⟨_, rfl⟩, _, List.mem_singleton_self _, fun hreadable => ?_⟩
          simpa [hadd] using addAll_isSome limits .empty hreadable
      | some l =>
          rw [← first_nil limits.maxFiles.toNat] at hadd
          have hl := addAll_eq (Nat.zero_le _) hadd
          exact Or.inl ⟨some l, rfl, by simpa [offered] using hl, by simp⟩
  | @walked s₁ s' answer root ds htree hcut hroot hwalk =>
      rw [htree]
      simp only [hcut, if_true, hroot]
      rw [← first_nil limits.maxFiles.toNat]
      rw [← List.length_nil (α := Candidate)] at hwalk
      rcases walk_of_walked hwalk with hok | ⟨⟨s'', herror⟩, hunreadable⟩
      · rw [hok]
        exact Or.inl ⟨_, rfl, rfl, by simp⟩
      · rw [herror]
        exact Or.inr ⟨⟨s'', rfl⟩, hunreadable⟩

/-- A listing of directories that can be read comes to an end, with the first files of them. -/
theorem ofVersion_of_readable (h : Received c repo limits.maxFiles.toNat version s ds s')
    (hreadable : ∀ d ∈ ds, d.Readable) (hsome : (c.tree repo version true s).1 ≠ .ok none) :
    ofVersion c repo limits version s =
      (.ok (some (first limits.maxFiles.toNat (offered ds))), s') := by
  rcases ofVersion_of_received h with ⟨listed, hlist, hfirst, hnone⟩ | ⟨-, d, hd, hunreadable⟩
  · cases listed with
    | none => exact absurd (hnone rfl) hsome
    | some l => rw [hlist, ← hfirst, Option.getD_some]
  · exact absurd (hreadable d hd) hunreadable

end

end Listing

end SourceAudit.Retrieval
