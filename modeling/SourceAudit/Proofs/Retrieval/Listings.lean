import SourceAudit.Proofs.Remote.Requests
import SourceAudit.Proofs.Retrieval.Offers

/-!
# SourceAudit.Proofs.Retrieval.Listings

Listings, answer by answer. What follows an answer hangs on the answer alone, so a listing is known
by what is made of each of its answers.

* `walk_cons` — what follows the answer for a directory;
* `walk_induct` — induction on the answers of a walk that comes to an end;
* `ofVersion_eq` — what follows the first answer of a listing;
* `Kept`, `Kept.defaultBranch`, `Kept.ofVersion` — what holds of a session after any query still
  holds after the lookup of a repository and after the listing of a version.
-/

namespace SourceAudit.Retrieval.Listing

open Remote Remote.Client

variable {c : Client} {repo : Repository} {limits : Limits} {s : Session}

/-! ## Walks -/

/-- What a walk has to go on with after the answer for a directory, if it goes on. -/
def walkedOn (limits : Limits) (p : Pending) (pending : List Pending) (l : Listing) :
    Except Stop (Option Json) → Except Stop (List Pending × Listing)
  | .error e => .error e
  | .ok (some (.obj answer)) =>
    match (entries? answer).bind (addDirectory limits p.inside · pending l) with
    | some next => .ok next
    | none => .error unusable
  | .ok _ => .error unusable

/-- A walk that has room lists the next directory, and goes on or ends as the answer for it says. -/
theorem walk_cons {l : Listing} {p : Pending} {pending : List Pending}
    (hroom : l.truncated = false) :
    walk c repo limits (p :: pending) l s =
      match walkedOn limits p pending l (c.tree repo p.version false s).1 with
      | .ok (pending, l) => walk c repo limits pending l (c.tree repo p.version false s).2
      | .error e => some (.error e, (c.tree repo p.version false s).2) := by
  rw [walk.eq_def]
  rcases htree : c.tree repo p.version false s with ⟨out, s₁⟩
  simp only [hroom, Bool.false_eq_true, if_false, htree]
  rcases out with e | _ | j
  · rfl
  · rfl
  · cases j with
    | obj answer =>
        simp only [walkedOn]
        split <;> simp only [*]
    | _ => rfl

/-- **Induction on the answers of a walk** that comes to an end: it is over at once, it ends with
the next answer, or it goes on after it. -/
theorem walk_induct {motive : ∀ (pending : List Pending) (l : Listing) (s : Session)
      (r : Except Stop Listing × Session), walk c repo limits pending l s = some r → Prop}
    (done : ∀ pending l s (h : walk c repo limits pending l s = some (.ok l, s)),
      pending = [] ∨ l.truncated = true → motive pending l s (.ok l, s) h)
    (ends : ∀ p pending l s e
      (h : walk c repo limits (p :: pending) l s =
        some (.error e, (c.tree repo p.version false s).2)), l.truncated = false →
      walkedOn limits p pending l (c.tree repo p.version false s).1 = .error e →
      motive (p :: pending) l s (.error e, (c.tree repo p.version false s).2) h)
    (goes : ∀ p pending l s pending' l' r
      (h : walk c repo limits (p :: pending) l s = some r)
      (h' : walk c repo limits pending' l' (c.tree repo p.version false s).2 = some r),
      l.truncated = false →
      walkedOn limits p pending l (c.tree repo p.version false s).1 = .ok (pending', l') →
      motive pending' l' (c.tree repo p.version false s).2 r h' → motive (p :: pending) l s r h)
    {pending : List Pending} {l : Listing} {s : Session} {r : Except Stop Listing × Session}
    (h : walk c repo limits pending l s = some r) : motive pending l s r h := by
  refine (walk.partial_correctness c repo limits (fun pending l s r =>
    ∃ h : walk c repo limits pending l s = some r, motive pending l s r h) ?_
    pending l s r h).2
  intro walk' ih pending l s r hr
  cases pending with
  | nil =>
      obtain rfl := Option.some.inj hr
      exact ⟨by rw [walk.eq_def], done _ _ _ _ (Or.inl rfl)⟩
  | cons p pending =>
      by_cases hfull : l.truncated = true
      · simp only [hfull, if_true] at hr
        obtain rfl := Option.some.inj hr
        exact ⟨walk_of_truncated _ hfull s, done _ _ _ _ (Or.inr hfull)⟩
      have hroom := Bool.not_eq_true _ |>.mp hfull
      have hnext : (∃ e, walkedOn limits p pending l (c.tree repo p.version false s).1 = .error e ∧
            r = (.error e, (c.tree repo p.version false s).2)) ∨
          ∃ next, walkedOn limits p pending l (c.tree repo p.version false s).1 = .ok next ∧
            walk' next.1 next.2 (c.tree repo p.version false s).2 = some r := by
        rcases htree : c.tree repo p.version false s with ⟨out, s₁⟩
        simp only [hroom, Bool.false_eq_true, if_false, htree] at hr
        rcases out with e | _ | j
        · exact Or.inl ⟨e, rfl, (Option.some.inj hr).symm⟩
        · exact Or.inl ⟨_, rfl, (Option.some.inj hr).symm⟩
        · cases j with
          | obj answer =>
              simp only at hr
              split at hr
              · next hadded => exact Or.inr ⟨(_, _), by simp only [walkedOn, hadded], hr⟩
              · next hadded =>
                exact Or.inl ⟨_, by simp only [walkedOn, hadded], (Option.some.inj hr).symm⟩
          | _ => exact Or.inl ⟨_, rfl, (Option.some.inj hr).symm⟩
      rcases hnext with ⟨e, hends, rfl⟩ | ⟨⟨pending', l'⟩, hgoes, hrest⟩
      · exact ⟨by rw [walk_cons hroom, hends], ends _ _ _ _ _ _ hroom hends⟩
      · obtain ⟨hwalk, hmotive⟩ := ih _ _ _ _ hrest
        have hwhole : walk c repo limits (p :: pending) l s = some r := by
          rw [walk_cons hroom, hgoes]
          exact hwalk
        exact ⟨hwhole, goes _ _ _ _ _ _ _ hwhole hwalk hroom hgoes hmotive⟩

/-! ## Versions -/

/-- What the first answer of a listing says: what is listed, or else the root of a walk. -/
def answered (limits : Limits) :
    Except Stop (Option Json) → Except Stop (Option Listing) ⊕ Json
  | .error e => .inl (.error e)
  | .ok none => .inl (.ok none)
  | .ok (some (.obj answer)) =>
    if (Json.lookup answer "truncated").any Json.isTruthy then
      match Json.lookup answer "sha" with
      | some root => .inr root
      | none => .inl (.error unusable)
    else
      match (entries? answer).bind fun entries => addAll limits entries .empty with
      | some l => .inl (.ok (some l))
      | none => .inl (.error unusable)
  | .ok _ => .inl (.error unusable)

/-- What follows the first answer of a listing. -/
theorem ofVersion_eq (version : Json) : ofVersion c repo limits version s =
    match answered limits (c.tree repo version true s).1 with
    | .inl listed => (listed, (c.tree repo version true s).2)
    | .inr root =>
      match walk c repo limits [⟨root, .str ""⟩] .empty (c.tree repo version true s).2 with
      | some (l, s) => (l.map some, s)
      | none => (.error .deadline, (c.tree repo version true s).2) := by
  unfold ofVersion
  rcases c.tree repo version true s with ⟨out, s₁⟩
  rcases out with e | _ | j
  · rfl
  · rfl
  · cases j with
    | obj answer =>
        simp only [answered]
        by_cases hcut : (Json.lookup answer "truncated").any Json.isTruthy = true
        · simp only [hcut, if_true]
          cases Json.lookup answer "sha" <;> rfl
        · simp only [hcut, if_false, Bool.false_eq_true]
          split <;> simp only [*]
    | _ => rfl

end SourceAudit.Retrieval.Listing

namespace SourceAudit.Retrieval

open Remote Remote.Client

/-! ## What every query keeps -/

/-- What holds of a session holds after any query, whatever its answer. -/
def Kept (c : Client) (repo : Repository) (P : Session → Prop) : Prop :=
  ∀ q s, P s → P (c.get repo q s).2

namespace Kept

section

variable {c : Client} {repo : Repository} {limits : Limits} {P : Session → Prop}
  {s s' : Session}

/-- The query for the default branch keeps it. -/
theorem defaultBranch (h : Kept c repo P) (hs : P s) : P (c.defaultBranch repo s).2 := by
  rw [defaultBranch_eq]
  exact h _ s hs

/-- A query for a tree keeps it. -/
theorem tree (h : Kept c repo P) (version : Json) (recursive : Bool) (hs : P s) :
    P (c.tree repo version recursive s).2 := by
  cases version with
  | str version =>
      rw [tree_eq]
      exact h _ s hs
  | _ => exact hs

/-- A walk makes no queries but those for trees. -/
theorem walk (h : Kept c repo P) {pending : List Listing.Pending} {l : Listing}
    {r : Except Stop Listing × Session} (hwalk : Listing.walk c repo limits pending l s = some r)
    (hs : P s) : P r.2 := by
  induction hwalk using Listing.walk_induct with
  | done => exact hs
  | ends p _ _ _ _ _ _ _ => exact h.tree p.version false hs
  | goes p _ _ _ _ _ _ _ _ _ _ ih => exact ih (h.tree p.version false hs)

/-- A listing keeps it, made at once or by a walk. -/
theorem ofVersion (h : Kept c repo P) (limits : Limits) (version : Json) (hs : P s) :
    P (Listing.ofVersion c repo limits version s).2 := by
  have htree := h.tree version true hs
  rw [Listing.ofVersion_eq]
  split
  · exact htree
  · split
    · next hwalk => exact h.walk hwalk htree
    · exact htree

end

end Kept

end SourceAudit.Retrieval
