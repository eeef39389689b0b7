import Mathlib.Data.List.Forall2
import SourceAudit.Proofs.Json.Equality
import SourceAudit.Proofs.Remote.Serving
import SourceAudit.Proofs.Retrieval.Trees

/-!
# SourceAudit.Proofs.Retrieval.Walks

A walk through the directories of a tree finds what a listing of everything states.

* `Node.Stated` and `Lists` — how answers state the entries of a tree;
* `exists_explored` — a walk through a tree lists the directories that are met on the way down,
  until there are too many files;
* `walk_refines_whole` — both ways end with as many candidates, and with the same ones if there are
  no more than allowed.
-/

namespace SourceAudit.Retrieval

open Remote Remote.Client Listing

/-! ## Answers -/

/-- A JSON value states the entry at a path: a file with its size, or a directory with its
version. -/
def Node.Stated (path : String) (j : Json) : Node → Prop
  | .file _ size => ∃ members, j = .obj members ∧
    Json.lookup members "type" = some (.str "blob") ∧
    Json.lookup members "path" = some (.str path) ∧
    Json.lookup members "size" = some (.int size)
  | .directory _ version _ => ∃ members, j = .obj members ∧
    Json.lookup members "type" = some (.str "tree") ∧
    Json.lookup members "path" = some (.str path) ∧
    Json.lookup members "sha" = some (.str version)

/-- An answer states some entries by their paths, in any order. -/
def Lists (es : List (String × Node)) (answer : List (String × Json)) : Prop :=
  ∃ es' js, es'.Perm es ∧ Json.lookup answer "tree" = some (.arr js) ∧
    List.Forall₂ (fun e j => e.2.Stated e.1 j) es' js

/-- An answer states all entries of a tree. -/
def ListsWhole (tree : Contents) (answer : List (String × Json)) : Prop :=
  (Json.lookup answer "truncated").any Json.isTruthy = false ∧ Lists (tree.everything "") answer

/-- An answer states that there is too much to state, and the version of the root. -/
def ListsCut (root : String) (answer : List (String × Json)) : Prop :=
  (Json.lookup answer "truncated").any Json.isTruthy = true ∧
    Json.lookup answer "sha" = some (.str root)

/-- An answer states the entries of one directory. -/
def ListsDirectory (contents : Contents) : List (String × Json) → Prop :=
  Lists (contents.nodes.map fun n => (n.name, n))

/-- A directory still to be listed. -/
def Subtree.pending (t : Subtree) : Pending := ⟨.str t.version, .str t.inside⟩

section

variable {n : Node} {path inside : String} {j : Json}

theorem size_int (size : Int) : size? (some (.int size)) = some size := by
  by_cases h : size = 0 <;> simp [size?, Json.isTruthy, Option.filter, h]

/-- An entry offers the file that it states. -/
theorem offer_of_stated (h : n.Stated path j) :
    offer? (.str inside) j = n.candidate? (inside ++ path) := by
  cases n with
  | file name size =>
      obtain ⟨members, rfl, htype, hpath, hsize⟩ := h
      by_cases hscan : isScannable (inside ++ path) = true <;>
        simp [offer?, offerAt?, pathOf, hasType, Json.append?, Json.text?, Json.isBroken, htype,
          hpath, hsize, size_int, Node.candidate?, Option.filter, hscan]
  | directory name version inner =>
      obtain ⟨members, rfl, htype, hpath, _⟩ := h
      simp [offer?, offerAt?, pathOf, hasType, Json.append?, htype, hpath, Node.candidate?]

/-- An entry of a directory is one to be listed. -/
theorem subdirectory_of_stated (h : n.Stated n.name j) :
    subdirectory? (.str inside) j = (n.child? inside).map Subtree.pending := by
  cases n with
  | file name size =>
      obtain ⟨members, rfl, htype, _⟩ := h
      simp [subdirectory?, hasType, htype, Node.child?]
  | directory name version inner =>
      obtain ⟨members, rfl, htype, hpath, hversion⟩ := h
      by_cases hskip : name ∈ skippedDirectories <;>
        simp [subdirectory?, hasType, isSkipped, pathOf, Json.append?, htype, hpath, hversion,
          Node.name, Node.child?, Subtree.pending, hskip]

/-- An entry that is stated can be read. -/
theorem readable_of_stated (inside : String) (h : n.Stated path j) :
    Directory.Readable ⟨.str inside, [j]⟩ := by
  intro e he
  obtain rfl := List.mem_singleton.mp he
  cases n with
  | file name size =>
      obtain ⟨members, rfl, htype, hpath, hsize⟩ := h
      exact ⟨members, .str (inside ++ path), rfl, by simp [pathOf, hpath, Json.append?],
        by simp [hasType, htype], by simp [hsize, size_int, Json.text?]⟩
  | directory name version inner =>
      obtain ⟨members, rfl, htype, hpath, hversion⟩ := h
      exact ⟨members, .str (inside ++ path), rfl, by simp [pathOf, hpath, Json.append?],
        by simp [hversion], by simp [hasType, htype]⟩

end

/-! ## Directories -/

section

variable {es : List (String × Node)} {js : List Json}
  (h : List.Forall₂ (fun e j => e.2.Stated e.1 j) es js)

include h

/-- A listing offers the files that its entries state. -/
theorem offers_of_stated (inside : String) : Directory.offers ⟨.str inside, js⟩ =
    es.filterMap fun e => e.2.candidate? (inside ++ e.1) := by
  induction h with
  | nil => rfl
  | cons hj _ ih =>
      rw [offers_cons, offer_of_stated hj, ih, List.filterMap_cons]
      cases Node.candidate? _ _ <;> rfl

/-- The directories below are those that the entries state. -/
theorem below_of_stated (inside : String) (hname : ∀ e ∈ es, e.1 = e.2.name) :
    Directory.below ⟨.str inside, js⟩ =
      (es.filterMap fun e => e.2.child? inside).map Subtree.pending := by
  induction h with
  | nil => rfl
  | cons hj _ ih =>
      obtain ⟨he, hrest⟩ := List.forall_mem_cons.mp hname
      rw [he] at hj
      rw [below_cons, subdirectory_of_stated hj, ih hrest, List.filterMap_cons]
      cases Node.child? _ _ <;> rfl

/-- Listings of entries are readable. -/
theorem readable_of_all_stated (inside : String) : Directory.Readable ⟨.str inside, js⟩ := by
  induction h with
  | nil => simp [Directory.Readable]
  | cons hj _ ih =>
      have hfirst := readable_of_stated inside hj
      exact List.forall_mem_cons.mpr ⟨hfirst _ (List.mem_singleton_self _), ih⟩

end

/-- The entries of a directory of a tree as listed, and the directories that are met among them. -/
structure Subtree.Entries (t : Subtree) (js : List Json) (children : List Subtree) : Prop where
  readable : Directory.Readable ⟨.str t.inside, js⟩
  offers : (Directory.offers ⟨.str t.inside, js⟩).Perm t.offers
  below : Directory.below ⟨.str t.inside, js⟩ = children.map Subtree.pending
  children : children.Perm t.children

/-- What lists a directory has entries for its children. -/
theorem entries_of_lists {t : Subtree} {answer : List (String × Json)}
    (h : ListsDirectory t.contents answer) :
    ∃ js children, entries? answer = some js ∧ t.Entries js children := by
  obtain ⟨es, js, hperm, htree, hstated⟩ := h
  have hname : ∀ e ∈ es, e.1 = e.2.name := by
    intro e he
    obtain ⟨n, -, rfl⟩ := List.mem_map.mp (hperm.mem_iff.mp he)
    rfl
  refine ⟨js, _, by simp [entries?, htree], readable_of_all_stated hstated t.inside, ?_,
    below_of_stated hstated t.inside hname, ?_⟩
  · rw [offers_of_stated hstated]
    simpa [Subtree.offers, List.filterMap_map] using
      hperm.filterMap fun e => e.2.candidate? (t.inside ++ e.1)
  · simpa [Subtree.children, List.filterMap_map] using
      hperm.filterMap fun e => e.2.child? t.inside

/-! ## Walks -/

/-- A walk through some directories of a tree lists those that are met on the way down, one request
for each, until there are too many files. `n` files were found before. -/
structure Explored (c : Client) (repo : Repository) (cap n : Nat) (queue : List Subtree)
    (s : Session) (listed left : List Subtree) (ds : List Directory) (s' : Session) : Prop where
  walked : Walked c repo cap (queue.map Subtree.pending) n s ds s'
  readable : ∀ d ∈ ds, d.Readable
  offered : (offered ds).Perm (listed.flatMap Subtree.offers)
  met : (listed ++ left).Perm (queue.flatMap Subtree.all)
  full : left = [] ∨ cap < n + (Listing.offered ds).length
  requests : s'.requests.map some =
    s.requests.map some ++ listed.map fun t => c.treeRequest? repo false t.version

/-- The directories yet to be met, after one of those pending is listed. -/
theorem perm_queue {t : Subtree} {children : List Subtree} (queue : List Subtree)
    (h : children.Perm t.children) : ((t :: queue).flatMap Subtree.all).Perm
      (t :: (queue ++ children).flatMap Subtree.all) := by
  have hdown : (t.contents.met t.inside).Perm (children.flatMap Subtree.all) :=
    (perm_children t.inside t.contents).trans (h.symm.flatMap_right _)
  rw [List.flatMap_cons, List.flatMap_append, Subtree.all, List.cons_append]
  exact ((hdown.append_right _).trans List.perm_append_comm).cons t

section

variable {c : Client} {repo : Repository} {cap n : Nat} {t : Subtree} {js : List Json}
  {queue children listed left : List Subtree} {s s₁ s' : Session} {ds : List Directory}

/-- A walk that has too many files leaves what is pending. -/
theorem Explored.full_of_lt (h : cap < n) (queue : List Subtree) (s : Session) :
    Explored c repo cap n queue s [] (queue.flatMap Subtree.all) [] s where
  walked := .full h _ s
  readable := by simp
  offered := .refl _
  met := .refl _
  full := Or.inr h
  requests := by simp

/-- **A step of a walk**: a directory is listed, and those met in it come last. -/
theorem Explored.step {answer : List (String × Json)} (hn : n ≤ cap)
    (htree : c.tree repo (.str t.version) false s = (.ok (some (.obj answer)), s₁))
    (hanswer : entries? answer = some js) (ht : t.Entries js children)
    (hrequests : s₁.requests.map some =
      s.requests.map some ++ [c.treeRequest? repo false t.version])
    (h : Explored c repo cap (n + (Directory.offers ⟨.str t.inside, js⟩).length)
      (queue ++ children) s₁ listed left ds s') :
    Explored c repo cap n (t :: queue) s (t :: listed) left (⟨.str t.inside, js⟩ :: ds) s' where
  walked := by
    refine .step hn htree hanswer ?_
    have hwalk := h.walked
    rwa [List.map_append, ← ht.below] at hwalk
  readable := List.forall_mem_cons.mpr ⟨ht.readable, h.readable⟩
  offered := ht.offers.append h.offered
  met := (h.met.cons t).trans (perm_queue queue ht.children).symm
  full := by simpa [Listing.offered, Nat.add_assoc] using h.full
  requests := by
    rw [h.requests, hrequests, List.append_assoc]
    rfl

/-- **A walk explores a tree whose directories are served.** -/
theorem exists_explored (cap : Nat) (hretries : 0 ≤ c.maxRetries) (n : Nat)
    (queue : List Subtree) (s : Session) (hs : s.remaining ≠ some 0)
    (hserved : ∀ t ∈ queue.flatMap Subtree.all,
      c.Serves repo s.world.script t.version false (ListsDirectory t.contents)) :
    ∃ listed left ds s', Explored c repo cap n queue s listed left ds s' := by
  -- The induction is on the number of directories yet to be met: each step takes one of them and
  -- brings no other, as those below it were counted already.
  generalize hsize : (queue.flatMap Subtree.all).length = size
  induction size generalizing n queue s with
  | zero =>
      cases queue with
      | nil => exact ⟨[], [], [], s, .done n s, by simp, .refl _, .refl _, Or.inl rfl, by simp⟩
      | cons t queue => simp [Subtree.all] at hsize
  | succ size ih =>
      cases queue with
      | nil => simp at hsize
      | cons t queue =>
          by_cases hfull : cap < n
          · exact ⟨_, _, _, _, .full_of_lt hfull _ s⟩
          obtain ⟨answer, s₁, hlists, htree, hs₁, hrequests, hkeeps⟩ :=
            tree_of_serves (hserved t (by simp [Subtree.all])) hretries hs
          obtain ⟨js, children, hanswer, ht⟩ := entries_of_lists hlists
          have hqueue := perm_queue queue ht.children
          have hfewer : ((queue ++ children).flatMap Subtree.all).length = size := by
            have hlength := hqueue.length_eq
            rw [hsize, List.length_cons] at hlength
            exact Nat.succ.inj hlength.symm
          obtain ⟨listed, left, ds, s', h⟩ :=
            ih (n + (Directory.offers ⟨.str t.inside, js⟩).length) (queue ++ children) s₁ hs₁
              (fun u hu => hkeeps _ _ _
                (hserved u (hqueue.mem_iff.mpr (List.mem_cons_of_mem _ hu)))) hfewer
          exact ⟨_, _, _, _, h.step (Nat.not_lt.mp hfull) htree hanswer ht hrequests⟩

end

/-! ## Both ways -/

section

variable {c : Client} {repo : Repository} {version root : String} {tree : Contents} {s : Session}

/-- A listing takes as many files as it can of those found. -/
theorem first_spec (cap : Nat) (found : List Candidate) :
    (first cap found).candidates.length = min found.length cap ∧
      ((first cap found).truncated = true ↔ cap < found.length) := by
  simp [first, Nat.min_comm]

/-- With room for all files, the order in which they are found does not matter. -/
theorem first_of_perm {cap : Nat} {found files : List Candidate} (h : found.Perm files)
    (hcap : files.length ≤ cap) : (first cap found).candidates.Perm files := by
  rwa [first_of_le (h.length_eq ▸ hcap)]

/-- A listing of everything takes the first files of a tree. -/
theorem whole_of_served (limits : Limits) (hretries : 0 ≤ c.maxRetries) (hs : s.remaining ≠ some 0)
    (h : c.Serves repo s.world.script version true (ListsWhole tree)) :
    ∃ found s', ofVersion c repo limits (.str version) s =
        (.ok (some (first limits.maxFiles.toNat found)), s') ∧ found.Perm tree.eligible := by
  obtain ⟨answer, s', ⟨hwhole, es, js, hperm, hentries, hstated⟩, htree, -, -, -⟩ :=
    tree_of_serves h hretries hs
  have hreceived : Received c repo limits.maxFiles.toNat (.str version) s [⟨.str "", js⟩] s' :=
    .whole htree hwhole (by rw [entries?, hentries])
  have hlist := ofVersion_of_readable hreceived
    (by simpa using readable_of_all_stated hstated "") (by simp [htree])
  refine ⟨_, s', hlist, ?_⟩
  rw [offered, List.flatMap_singleton, offers_of_stated hstated]
  simpa [Contents.eligible] using hperm.filterMap fun e => e.2.candidate? e.1

/-- A walk takes the first files of a tree, with a request for each directory that is met if there
are not too many. -/
theorem walk_of_served (limits : Limits) (hretries : 0 ≤ c.maxRetries) (hs : s.remaining ≠ some 0)
    (hnamed : tree.Named) (hcut : c.Serves repo s.world.script version true (ListsCut root))
    (hserved : ∀ t ∈ Subtree.all ⟨"", root, tree⟩,
      c.Serves repo s.world.script t.version false (ListsDirectory t.contents)) :
    ∃ found s' listed left, ofVersion c repo limits (.str version) s =
        (.ok (some (first limits.maxFiles.toNat found)), s') ∧
      (found ++ left.flatMap Subtree.offers).Perm tree.eligible ∧
      (left = [] ∨ limits.maxFiles.toNat < found.length) ∧
      (listed ++ left).Perm (Subtree.all ⟨"", root, tree⟩) ∧
      s'.requests.map some = s.requests.map some ++ c.treeRequest? repo true version ::
        listed.map fun t => c.treeRequest? repo false t.version := by
  obtain ⟨answer, s₁, ⟨htruncated, hroot⟩, htree, hs₁, hrequests, hkeeps⟩ :=
    tree_of_serves hcut hretries hs
  obtain ⟨listed, left, ds, s', h⟩ := exists_explored limits.maxFiles.toNat hretries 0
    [⟨"", root, tree⟩] s₁ hs₁ (fun t ht => hkeeps _ _ _ (hserved t (by simpa using ht)))
  have hlist := ofVersion_of_readable (.walked htree htruncated hroot h.walked) h.readable
    (by simp [htree])
  have hmet : (listed ++ left).Perm (Subtree.all ⟨"", root, tree⟩) := by simpa using h.met
  refine ⟨_, s', listed, left, hlist, ?_, by simpa using h.full, hmet, ?_⟩
  · refine (h.offered.append_right _).trans ?_
    rw [← List.flatMap_append]
    exact (hmet.flatMap_right _).trans (eligible_perm root tree hnamed).symm
  · rw [h.requests, hrequests, List.append_assoc]
    rfl

/-- **A walk refines a listing of everything.** Of two services for a tree, one states everything at
once, the other that there is too much to state and then one directory at a time. Both listings end
with as many files, all of them or as many as allowed, and say in the same case that there are more;
if there are no more than allowed, both have the same files, and the walk made one request for each
directory that neither is left out nor lies below one that is. -/
theorem walk_refines_whole (limits : Limits) {s' : Session} (hnamed : tree.Named)
    (hretries : 0 ≤ c.maxRetries) (hs : s.remaining ≠ some 0) (hs' : s'.remaining ≠ some 0)
    (hwhole : c.Serves repo s.world.script version true (ListsWhole tree))
    (hcut : c.Serves repo s'.world.script version true (ListsCut root))
    (hserved : ∀ t ∈ Subtree.all ⟨"", root, tree⟩,
      c.Serves repo s'.world.script t.version false (ListsDirectory t.contents)) :
    let cap := limits.maxFiles.toNat
    ∃ l l' after after', ofVersion c repo limits (.str version) s = (.ok (some l), after) ∧
      ofVersion c repo limits (.str version) s' = (.ok (some l'), after') ∧
      l.candidates.length = min tree.eligible.length cap ∧
      l'.candidates.length = min tree.eligible.length cap ∧
      (l.truncated = true ↔ cap < tree.eligible.length) ∧
      (l'.truncated = true ↔ cap < tree.eligible.length) ∧
      (tree.eligible.length ≤ cap → l.candidates.Perm l'.candidates ∧
        ∃ listed : List Subtree, listed.Perm (Subtree.all ⟨"", root, tree⟩) ∧
          after'.requests.map some = s'.requests.map some ++ c.treeRequest? repo true version ::
            listed.map fun t => c.treeRequest? repo false t.version) := by
  intro cap
  obtain ⟨found, after, hlist, hfound⟩ := whole_of_served limits hretries hs hwhole
  obtain ⟨found', after', listed, left, hlist', hfound', hleft, hmet, hrequests⟩ :=
    walk_of_served limits hretries hs' hnamed hcut hserved
  have hlength := hfound.length_eq
  have hlength' := hfound'.length_eq
  rw [List.length_append] at hlength'
  have hall : left = [] → found'.length = tree.eligible.length := by
    rintro rfl
    simpa using hlength'
  have hcount : min found'.length cap = min tree.eligible.length cap ∧
      (cap < found'.length ↔ cap < tree.eligible.length) := by
    rcases hleft with hnone | hmore
    · rw [hall hnone]
      exact ⟨rfl, .rfl⟩
    · omega
  obtain ⟨hlen, htruncated⟩ := first_spec cap found
  obtain ⟨hlen', htruncated'⟩ := first_spec cap found'
  refine ⟨_, _, after, after', hlist, hlist', hlength ▸ hlen, hlen'.trans hcount.1,
    hlength ▸ htruncated, htruncated'.trans hcount.2, fun hcap => ?_⟩
  have hnone : left = [] := hleft.resolve_right (by omega)
  subst hnone
  simp only [List.flatMap_nil, List.append_nil] at hfound' hmet
  exact ⟨(first_of_perm hfound hcap).trans (first_of_perm hfound' hcap).symm, listed, hmet,
    hrequests⟩

end

namespace Sample

/-- A client without a token. -/
def client : Client := ⟨serviceAddress? "https://api.github.com", none, 2, .finite 0⟩

/-- A repository. -/
def repository : Repository := ⟨"o", "n", none⟩

/-- Two directories with a file in each, one of which is left out. -/
def smallTree : Contents :=
  .directory "dist" "d" (.file "a.js" 1 .nil) (.directory "s" "v" (.file "b.js" 2 .nil) .nil)

/-- The entry of a file. -/
def blob (path : String) (size : Int) : Json :=
  .obj [("path", .str path), ("type", .str "blob"), ("size", .int size)]

/-- The entry of a directory. -/
def directory (path version : String) : Json :=
  .obj [("path", .str path), ("type", .str "tree"), ("sha", .str version)]

/-- The reply that brings a text. -/
def bringing (text : String) : List Reply :=
  [⟨.response ⟨200, .empty, Text.bytesOf text⟩, none⟩]

/-- The text of all entries of the tree. -/
def wholeText : String :=
  "\x7b\"tree\":[\x7b\"path\":\"dist\",\"type\":\"tree\",\"sha\":\"d\"\x7d," ++
    "\x7b\"path\":\"dist/a.js\",\"type\":\"blob\",\"size\":1\x7d," ++
    "\x7b\"path\":\"s\",\"type\":\"tree\",\"sha\":\"v\"\x7d," ++
    "\x7b\"path\":\"s/b.js\",\"type\":\"blob\",\"size\":2\x7d]\x7d"

/-- The text of the entries of its root. -/
def rootText : String :=
  "\x7b\"tree\":[\x7b\"path\":\"dist\",\"type\":\"tree\",\"sha\":\"d\"\x7d," ++
    "\x7b\"path\":\"s\",\"type\":\"tree\",\"sha\":\"v\"\x7d]\x7d"

/-- The text of the entries of the directory in it that is not left out. -/
def innerText : String :=
  "\x7b\"tree\":[\x7b\"path\":\"b.js\",\"type\":\"blob\",\"size\":2\x7d]\x7d"

/-- The text that says that there is too much to state. -/
def cutText : String := "\x7b\"truncated\":true,\"sha\":\"r\"\x7d"

/-- A service that states all of the tree at once. -/
def wholeScript : Script := ⟨[("/repos/o/n/git/trees/main?recursive=1", bringing wholeText)]⟩

/-- A service that states the tree by directories. -/
def walkScript : Script := ⟨[("/repos/o/n/git/trees/main?recursive=1", bringing cutText),
  ("/repos/o/n/git/trees/r", bringing rootText), ("/repos/o/n/git/trees/v", bringing innerText)]⟩

/-- A request for a listing is made, to an address with the given target. -/
def Asks (version : String) (recursive : Bool) (target : String) : Prop :=
  (client.base.bind ((Query.tree version recursive).address? · repository)).map
    (fun u => (u.saysHow, String.ofList u.target)) = some (true, target)

/-- A script serves a tree if what it brings can be read as one. -/
theorem serves_of_bringing {script : Script} {version target : String} {recursive : Bool}
    {kind : List (String × Json) → Prop} {answer : List (String × Json)} (hkind : kind answer)
    (text : String) (hasks : Asks version recursive target)
    (hreplies : script.replies target = bringing text)
    (hjson : (Json.ofBytes (Text.bytesOf text)).toOption = some (.obj answer)) :
    client.Serves repository script version recursive kind := by
  obtain ⟨u, hu, heq⟩ := Option.map_eq_some_iff.mp hasks
  obtain ⟨hhow, rfl⟩ := Prod.mk.inj heq
  refine ⟨u, hu, hhow, by simp [hreplies, bringing], fun reply hreply => ?_⟩
  rw [hreplies] at hreply
  obtain rfl := List.mem_singleton.mp hreply
  exact ⟨_, answer, rfl, ⟨rfl, ⟨_, rfl, hjson⟩, fun value hvalue => by cases hvalue⟩, hkind⟩

theorem asks_main : Asks "main" true "/repos/o/n/git/trees/main?recursive=1" := by
  unfold Asks
  decide +kernel

theorem serves_whole : client.Serves repository wholeScript "main" true (ListsWhole smallTree) := by
  have hkind : ListsWhole smallTree [("tree", .arr [directory "dist" "d", blob "dist/a.js" 1,
      directory "s" "v", blob "s/b.js" 2])] := by
    refine ⟨by decide +kernel, _, _, .refl _, rfl, ?_⟩
    simp [smallTree, Contents.everything, Node.Stated, Json.lookup, blob, directory]
  exact serves_of_bringing hkind wholeText asks_main rfl (by decide +kernel)

theorem serves_cut : client.Serves repository walkScript "main" true (ListsCut "r") := by
  have hkind : ListsCut "r" [("truncated", .bool true), ("sha", .str "r")] := by
    constructor <;> decide +kernel
  exact serves_of_bringing hkind cutText asks_main rfl (by decide +kernel)

theorem all_smallTree : Subtree.all ⟨"", "r", smallTree⟩ =
    [⟨"", "r", smallTree⟩, ⟨"s/", "v", .file "b.js" 2 .nil⟩] := by
  simp [smallTree, Subtree.all, Contents.met, skippedDirectories]

theorem serves_directories : ∀ t ∈ Subtree.all ⟨"", "r", smallTree⟩,
    client.Serves repository walkScript t.version false (ListsDirectory t.contents) := by
  have hroot : ListsDirectory smallTree
      [("tree", .arr [directory "dist" "d", directory "s" "v"])] := by
    refine ⟨_, _, .refl _, rfl, ?_⟩
    simp [smallTree, Contents.nodes, Node.Stated, Json.lookup, directory, Node.name]
  have hinner : ListsDirectory (.file "b.js" 2 .nil) [("tree", .arr [blob "b.js" 2])] := by
    refine ⟨_, _, .refl _, rfl, ?_⟩
    simp [Contents.nodes, Node.Stated, Json.lookup, blob, Node.name]
  rw [all_smallTree]
  simp only [List.forall_mem_cons, List.not_mem_nil, false_imp_iff, implies_true, and_true]
  have hasks : Asks "r" false "/repos/o/n/git/trees/r" ∧
      Asks "v" false "/repos/o/n/git/trees/v" := by
    unfold Asks
    decide +kernel
  exact ⟨serves_of_bringing hroot rootText hasks.1 rfl (by decide +kernel),
    serves_of_bringing hinner innerText hasks.2 rfl (by decide +kernel)⟩

theorem named_smallTree : smallTree.Named := by
  have hname : ∀ name ∈ ["dist", "a.js", "s", "b.js"], Path.IsName name := by
    intro name hname
    constructor <;> revert name <;> decide
  simp only [List.forall_mem_cons] at hname
  obtain ⟨hdist, ha, hs, hb, -⟩ := hname
  exact ⟨hdist, ⟨ha, trivial⟩, hs, ⟨hb, trivial⟩, trivial⟩

/-- Both ways list one file of two, and the walk sends a request for each of two directories. -/
theorem walk_refines_whole_smallTree : ∃ l l' after after',
    ofVersion client repository ⟨1, 1000, 1000⟩ (.str "main") (.start ⟨0, wholeScript⟩) =
        (.ok (some l), after) ∧
      ofVersion client repository ⟨1, 1000, 1000⟩ (.str "main") (.start ⟨0, walkScript⟩) =
        (.ok (some l'), after') ∧
      l.candidates.length = 1 ∧ l.candidates.Perm l'.candidates ∧ after'.requests.length = 3 := by
  have heligible : smallTree.eligible.length = 1 := by decide +kernel
  have hs : (Session.start ⟨0, wholeScript⟩).remaining ≠ some 0 := by simp [Session.start]
  have hs' : (Session.start ⟨0, walkScript⟩).remaining ≠ some 0 := by simp [Session.start]
  obtain ⟨l, l', after, after', hlist, hlist', hlength, -, -, -, hsame⟩ :=
    walk_refines_whole ⟨1, 1000, 1000⟩ named_smallTree (by decide) hs hs' serves_whole serves_cut
      serves_directories
  obtain ⟨hperm, listed, hmet, hrequests⟩ := hsame (by rw [heligible]; decide)
  refine ⟨l, l', after, after', hlist, hlist', by simpa [heligible] using hlength, hperm, ?_⟩
  rw [all_smallTree] at hmet
  simpa [Session.start, hmet.length_eq] using congrArg List.length hrequests

end Sample

end SourceAudit.Retrieval
