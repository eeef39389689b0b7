import Mathlib.Data.List.Basic
import SourceAudit.Proofs.Remote.Requests
import SourceAudit.Proofs.Text.Escapes

/-!
# SourceAudit.Proofs.Remote.Targets

The targets of the requests of a session. A request is recorded with the text of its address, from
which the target can be read off again, as all addresses are below that of the service.

* `targetIn_text` — the target of an address below another one, from its text;
* `targetOf_sent` — the target of a request as recorded is the one that it was sent to;
* `asked` — how often a target is asked for, which grows by one when it is asked for again.
-/

namespace SourceAudit.Remote

open Text

namespace Url

/-! ## Addresses -/

/-- What the text of an address says before the path. -/
def front (u : Url) : List Char :=
  (if u.scheme.isEmpty then [] else u.scheme ++ [':']) ++
    (if u.authority.isEmpty then [] else '/' :: '/' :: u.authority)

/-- An address differs from another one in its target only. -/
structure Below (base u : Url) : Prop where
  front : u.front = base.front
  fragment : u.fragment = base.fragment
  path : '?' ∉ u.path

/-- The target in the text of an address that differs from this one in its target only. -/
def targetIn (base : Url) (text : List Char) : List Char :=
  let shown := text.drop base.front.length
  let target := shown.take (shown.length - (marked '#' base.fragment).length)
  if target.head?.all (· = '?') then '/' :: target else target

section

variable {base u v : Url} {path : List Char} {query : Option (List Char)}

theorem text_eq (u : Url) :
    u.text = u.front ++ (u.path ++ marked '?' u.query ++ marked '#' u.fragment) := by
  simp [text, front]

/-- **The target of an address can be read off its text.** -/
theorem targetIn_text (h : Below base u) : base.targetIn u.text = u.target := by
  have hshown : u.text.drop base.front.length =
      u.path ++ marked '?' u.query ++ marked '#' base.fragment := by
    rw [text_eq, ← h.front, ← h.fragment, List.drop_left]
  have htarget : (u.path ++ marked '?' u.query ++ marked '#' base.fragment).take
      ((u.path ++ marked '?' u.query ++ marked '#' base.fragment).length -
        (marked '#' base.fragment).length) = u.path ++ marked '?' u.query := by
    have hlength : (u.path ++ marked '?' u.query ++ marked '#' base.fragment).length -
        (marked '#' base.fragment).length = (u.path ++ marked '?' u.query).length := by
      rw [List.length_append, Nat.add_sub_cancel]
    rw [hlength, List.take_left]
  rw [targetIn]
  simp only [hshown, htarget, target]
  cases hpath : u.path with
  | nil => cases u.query <;> simp [marked]
  | cons c cs =>
      have hc : c ≠ '?' := fun heq => h.path (by simp [hpath, heq])
      simp [hc]

/-- A part that leaves out a mark holds it nowhere. -/
theorem notMem_percentKept (marks cs : List Char) (hmark : '?' ∈ marks) :
    '?' ∉ percentKept marks cs := by
  intro hmem
  rcases mem_percentChars hmem with ⟨-, hkept⟩ | hescape
  · simp [isKept, hmark] at hkept
  · exact absurd hescape (by decide)

/-- An address with another path is below the same base. -/
theorem below_withPath (h : u.withPath? path query = some v) : Below u v := by
  unfold withPath? at h
  split at h
  · simp at h
  · obtain rfl := Option.some.inj h
    exact ⟨rfl, rfl, notMem_percentKept _ _ (by decide)⟩

/-- An address that extends the base is below it. -/
theorem below_extend {reference : List Char} {parameters : Option (List Char)}
    (h : base.extend? reference parameters = some u) : Below base u := by
  unfold extend? at h
  split at h
  · simp at h
  · split at h
    · simp at h
    · next hbelow =>
      obtain rfl := Option.some.inj h
      exact below_withPath hbelow
    · next hbelow =>
      have h₁ := below_withPath hbelow
      have h₂ := below_withPath h
      exact ⟨h₂.front.trans h₁.front, h₂.fragment.trans h₁.fragment, h₂.path⟩

end

end Url

namespace Client

/-- The target of a request as recorded. -/
def targetOf (c : Client) (x : Request) : String :=
  match c.base with
  | some base => .ofList (base.targetIn x.url.toList)
  | none => ""

/-- How often a target is asked for in a session. -/
def asked (c : Client) (target : String) (s : Session) : Nat :=
  s.requests.countP fun x => c.targetOf x = target

section

variable {c : Client} {repo : Repository} {q : Query} {u : Url} {target accept : String}
  {s s' : Session}

/-- **The target of a request as recorded** is the one that it was sent to. -/
theorem targetOf_sent (h : c.base.bind (q.address? · repo) = some u)
    (authorization : Option String) :
    c.targetOf ⟨.ofList u.text, accept, authorization⟩ = .ofList u.target := by
  obtain ⟨base, hbase, hu⟩ := Option.bind_eq_some_iff.mp h
  simp only [targetOf, hbase, String.toList_ofList]
  rw [Url.targetIn_text (Url.below_extend hu)]

/-- Queries only add to the requests made of a target. -/
theorem asked_of_sends (h : Session.Sends accept s s') : c.asked target s ≤ c.asked target s' := by
  obtain ⟨sent, hsent, -⟩ := h
  rw [asked, asked, hsent, List.countP_append]
  exact Nat.le_add_right _ _

/-- One attempt is one request of its own target and none of any other. -/
theorem asked_sendTo (h : c.base.bind (q.address? · repo) = some u) :
    c.asked target (c.sendTo u q s).2 =
      c.asked target s + if .ofList u.target = target then 1 else 0 := by
  rw [asked, requests_sendTo, List.countP_append]
  simp [asked, targetOf_sent h]

theorem asked_send_of_ne
    (h : ∀ u, c.base.bind (q.address? · repo) = some u → String.ofList u.target ≠ target) :
    c.asked target (c.send repo q s).2 = c.asked target s := by
  unfold send
  split
  · rfl
  · rfl
  · cases hu : c.base.bind (q.address? · repo) with
    | none => rfl
    | some u =>
        simp only
        rw [asked_sendTo hu, if_neg (h u hu)]
        rfl

/-- A query does not ask for other targets than its own. -/
theorem asked_get_of_ne
    (h : ∀ u, c.base.bind (q.address? · repo) = some u → String.ofList u.target ≠ target) :
    c.asked target (c.get repo q s).2 = c.asked target s := by
  unfold get
  split
  · rfl
  · exact retry_keeps (P := fun s' => c.asked target s' = c.asked target s)
      (fun s' hs' => (asked_send_of_ne h).trans hs') (fun _ _ hs' => hs') _ _ rfl

end

end Client

end SourceAudit.Remote
