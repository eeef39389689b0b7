import SourceAudit.Proofs.Remote.Targets
import SourceAudit.Proofs.Repository.Safety

/-!
# SourceAudit.Proofs.Remote.Files

The targets of the requests for files. The path of a file is encoded when the target is written, and
once more when the address is put together; the second time nothing is left to encode, so the target
is read back by undoing the first.

* `NamesFile` — a target from which path and version can be read;
* `NamesFile.unique` — it names one file at one version;
* `address?_file` — the address of a file, with its limits of length;
* `file_targets` — the targets of the requests for a file name that file.
-/

namespace SourceAudit.Remote

open Text Repository

/-! ## Names of files -/

/-- A target names a file at a version: behind the root and up to the question mark it has the path
in escapes, and then a single parameter, the version in form encoding. -/
def NamesFile (root target : List Char) (path ref : String) : Prop :=
  ∃ escaped value : List Char, target = root ++ escaped ++ '?' :: ("ref=".toList ++ value) ∧
    '?' ∉ root ++ escaped ∧ '&' ∉ value ∧
    decode? (unpercent escaped) = some path.toList ∧ decode? (unform value) = some ref.toList

/-- A path without a question mark ends where the query begins. -/
theorem upTo_question {front : List Char} (h : '?' ∉ front) (rest : List Char) :
    Url.upTo ['?'] (front ++ '?' :: rest) = (front, '?' :: rest) := by
  refine Url.upTo_append_cons (fun c hc => ?_) (List.mem_singleton_self _) rest
  rw [List.mem_singleton]
  rintro rfl
  exact h hc

/-- A target names one file, at one version. -/
theorem NamesFile.unique {root target : List Char} {path path' ref ref' : String}
    (h : NamesFile root target path ref) (h' : NamesFile root target path' ref') :
    path = path' ∧ ref = ref' := by
  obtain ⟨escaped, value, rfl, hmark, -, hpath, href⟩ := h
  obtain ⟨escaped', value', heq, hmark', -, hpath', href'⟩ := h'
  have hparts := congrArg (Url.upTo ['?']) heq
  rw [upTo_question hmark, upTo_question hmark'] at hparts
  obtain ⟨hfront, hquery⟩ := Prod.mk.inj hparts
  obtain rfl : escaped = escaped' := List.append_cancel_left hfront
  obtain rfl : value = value' := List.append_cancel_left (List.cons.inj hquery).2
  have hsamePath := Option.some.inj (hpath.symm.trans hpath')
  have hsameRef := Option.some.inj (href.symm.trans href')
  exact ⟨String.toList_inj.mp hsamePath, String.toList_inj.mp hsameRef⟩

/-! ## Places of files -/

/-- No component of the path is a dot segment. -/
def Undotted (path : String) : Prop :=
  ∀ segment ∈ piecesBetween '/' path.toList, ¬ Url.IsDot segment

/-- Where the files of a repository are, below the address of the service. -/
def contents (repo : Repository) : List Char :=
  "repos/".toList ++ repo.owner.toList ++ '/' :: repo.name.toList ++ "/contents/".toList

section

variable {base : Url} {repo : Repository} {path ref : String}

/-- A name stands in an address as it is. -/
theorem resolved_of_isName {part : List Char} (h : isName part = true) :
    Url.Resolved base part where
  kept := fun c hc => isKept_of_isNameChar (nameChars_of_isName h c hc)
  dots := by
    intro _ segment hsegment
    have hpart := safePart_of_isName h
    rw [piecesBetween_of_notMem hpart.marks.1, List.mem_singleton] at hsegment
    rw [hsegment]
    exact not_or.mpr hpart.not_dot

/-- An encoded path without dot segments has nothing to encode and nothing to resolve. -/
theorem resolved_percentPath (h : Undotted path) : Url.Resolved base (percentPath path.toList) where
  kept := fun _ => Url.isKept_of_mem_percentPath
  dots := by
    intro _ segment hsegment
    rw [piecesBetween_percentPath] at hsegment
    obtain ⟨part, hpart, rfl⟩ := List.mem_map.mp hsegment
    exact fun hdot => h part hpart hdot.of_percentChars

theorem contents_append (repo : Repository) (rest : List Char) :
    contents repo ++ rest = "repos".toList ++ '/' :: (repo.owner.toList ++
      '/' :: (repo.name.toList ++ '/' :: ("contents".toList ++ '/' :: rest))) := by
  have hrepos : "repos/".toList = "repos".toList ++ ['/'] := by decide +kernel
  have hcontents : "/contents/".toList = '/' :: ("contents".toList ++ ['/']) := by decide +kernel
  have hassoc : ∀ repos owner name contents : List Char,
      repos ++ ['/'] ++ owner ++ '/' :: name ++ '/' :: (contents ++ ['/']) ++ rest =
        repos ++ '/' :: (owner ++ '/' :: (name ++ '/' :: (contents ++ '/' :: rest))) := by
    simp
  exact (congrArg₂ (fun repos contents => repos ++ repo.owner.toList ++ '/' :: repo.name.toList ++
    contents ++ rest) hrepos hcontents).trans (hassoc ..)

/-- The path of the contents of a repository with proper names stands in an address as it is. -/
theorem resolved_contents (howner : isName repo.owner.toList = true)
    (hname : isName repo.name.toList = true) {rest : List Char} (h : Url.Resolved base rest) :
    Url.Resolved base (contents repo ++ rest) := by
  have hrepos : isName "repos".toList = true := by decide +kernel
  have hcontents : isName "contents".toList = true := by decide +kernel
  rw [contents_append]
  exact Url.resolved_append_cons_iff.mpr ⟨resolved_of_isName hrepos,
    Url.resolved_append_cons_iff.mpr ⟨resolved_of_isName howner,
      Url.resolved_append_cons_iff.mpr ⟨resolved_of_isName hname,
        Url.resolved_append_cons_iff.mpr ⟨resolved_of_isName hcontents, h⟩⟩⟩⟩

theorem path_file (ref : Option String) :
    (Query.file path ref).path repo = '/' :: (contents repo ++ percentPath path.toList) := by
  have hrepos : "/repos/".toList = '/' :: "repos/".toList := by decide +kernel
  have hassoc : ∀ repos owner name contents path : List Char,
      '/' :: repos ++ owner ++ '/' :: name ++ (contents ++ path) =
        '/' :: (repos ++ owner ++ '/' :: name ++ contents ++ path) := by
    simp
  exact (congrArg (fun repos => repos ++ repo.owner.toList ++ '/' :: repo.name.toList ++
    (Query.file path ref).resource) hrepos).trans (hassoc ..)

/-! ## Parameters -/

/-- The parameter that tells the version. -/
def refParameter (ref : String) : List Char := "ref=".toList ++ percentForm ref.toList

/-- Nothing in the value of a parameter is encoded again. -/
theorem isKept_of_mem_percentForm {cs : List Char} {c : Char} (h : c ∈ percentForm cs) :
    isKept Url.queryMarks c = true := by
  have hmarks : ∀ d ∈ Url.queryMarks, d ∈ Url.pathMarks := forall_of_all (by decide)
  have hescape : ∀ d ∈ escapeChars, isKept Url.queryMarks d = true := forall_of_all (by decide)
  rcases mem_percentForm h with rfl | hc | hc
  · decide
  · have hkept := Url.isKept_of_isUnreserved hc
    simp only [isKept, Bool.and_eq_true, Bool.not_eq_true', List.contains_eq_mem,
      decide_eq_false_iff_not] at hkept ⊢
    exact ⟨hkept.1, mt (hmarks c) hkept.2⟩
  · exact hescape c hc

/-- The parameter for a ref is encoded already, and not encoded again. -/
theorem percentKept_refParameter (ref : String) :
    percentKept Url.queryMarks (refParameter ref) = refParameter ref := by
  have hname : ∀ c ∈ "ref=".toList, isKept Url.queryMarks c = true := forall_of_all (by decide)
  refine percentChars_of_forall fun c hc => ?_
  rcases List.mem_append.mp hc with hc | hc
  · exact hname c hc
  · exact isKept_of_mem_percentForm hc

/-- An encoded value does not end its parameter early. -/
theorem notMem_percentForm (cs : List Char) : '&' ∉ percentForm cs := by
  intro hmem
  rcases mem_percentForm hmem with h | h | h
  all_goals exact absurd h (by decide)

/-! ## Addresses of files -/

/-- Parameters that are too long are refused. -/
theorem extend?_of_long {reference parameters : List Char}
    (h : Url.maxLength < parameters.length) : base.extend? reference (some parameters) = none := by
  unfold Url.extend?
  split
  · rfl
  · split
    · rfl
    · next heq => simp at heq
    · next heq =>
      obtain rfl := Option.some.inj heq
      simp [Url.withPath?, h]

/-- **The address of a file** below a service. -/
theorem address?_file (hbase : Url.IsBase base) (howner : isName repo.owner.toList = true)
    (hname : isName repo.name.toList = true) (hpath : Undotted path) (href : ref ≠ "") :
    (Query.file path (some ref)).address? base repo =
      if Url.maxLength < (base.target ++ contents repo ++ percentPath path.toList).length ∨
          Url.maxLength < (refParameter ref).length then none
      else some { base with
        path := base.target ++ contents repo ++ percentPath path.toList
        query := some (refParameter ref) } := by
  have hparameters : (Query.file path (some ref)).parameters = some (refParameter ref) := by
    rw [Query.parameters, if_neg href]
    rfl
  rw [Query.address?, hparameters, path_file]
  by_cases hlong : Url.maxLength < (refParameter ref).length
  · rw [extend?_of_long hlong, if_pos (.inr hlong)]
  · have hstart : (contents repo ++ percentPath path.toList).head? ≠ some '/' :=
      (by decide : some 'r' ≠ some '/')
    rw [Url.extend?_below hbase (resolved_contents howner hname (resolved_percentPath hpath)) hstart
      (by simpa using hlong), Option.map_some, percentKept_refParameter, List.append_assoc]
    simp only [hlong, or_false]

theorem target_of_query {path query : List Char} (h : path ≠ []) :
    Url.target { base with path := path, query := some query } = path ++ '?' :: query := by
  simp [Url.target, Url.marked, h]

/-- The target of the address of a file names the file. -/
theorem namesFile_target (hbase : Url.IsBase base) (howner : isName repo.owner.toList = true)
    (hname : isName repo.name.toList = true) (hpath : Undotted path) (href : ref ≠ "") {u : Url}
    (hu : (Query.file path (some ref)).address? base repo = some u) :
    NamesFile (base.target ++ contents repo) u.target path ref := by
  rw [address?_file hbase howner hname hpath href] at hu
  split at hu
  · simp at hu
  · obtain rfl := Option.some.inj hu
    have hrest : Url.Resolved base (contents repo ++ percentPath path.toList) :=
      resolved_contents howner hname (resolved_percentPath hpath)
    refine ⟨percentPath path.toList, percentForm ref.toList, ?_, ?_, notMem_percentForm _, ?_, ?_⟩
    · have hne : base.target ++ contents repo ++ percentPath path.toList ≠ [] :=
        List.append_ne_nil_of_left_ne_nil (List.append_ne_nil_of_left_ne_nil (by
          intro hnil
          have := hbase.slash
          simp [hnil] at this) _) _
      exact target_of_query hne
    · rw [List.append_assoc]
      intro hmem
      rcases List.mem_append.mp hmem with hmem | hmem
      · exact (Url.ne_of_isKept (hbase.settled.kept _ hmem)).1 rfl
      · exact (Url.ne_of_isKept (hrest.kept _ hmem)).1 rfl
    · rw [unpercent_percentPath, decode?_encode]
    · rw [unform_percentForm, decode?_encode]

end

/-! ## Requests for files -/

namespace Client

/-- The requests of a query all have the target of its address. -/
theorem target_of_get (c : Client) (repo : Repository) (q : Query) (s : Session) :
    ∃ sent, (c.get repo q s).2.requests = s.requests ++ sent ∧
      ∀ x ∈ sent, ∃ u, c.base.bind (q.address? · repo) = some u ∧
        c.targetOf x = .ofList u.target := by
  obtain ⟨sent, hsent, -⟩ := c.get_sends repo q s
  refine ⟨sent, hsent, fun x hx => ?_⟩
  by_contra hother
  have hne : ∀ u, c.base.bind (q.address? · repo) = some u →
      String.ofList u.target ≠ c.targetOf x := fun u hu heq => hother ⟨u, hu, heq.symm⟩
  have hasked := asked_get_of_ne (s := s) hne
  rw [asked, asked, hsent, List.countP_append, Nat.add_eq_left, List.countP_eq_zero] at hasked
  exact hasked x hx (by simp)

end Client

/-- **Requests for a file name exactly that file**: below a service, and for any repository, path
and version, the part of the target behind the place of the repository's files is the path with its
characters in escapes, and its only parameter is the version in form encoding, so both are read back
as they were. There is such an address unless it is too long. Every request of a client that asks
for a file has such a target, and another path or another version has another one. -/
theorem file_targets {service : String} {base : Url} {repo : Repository} {path ref : String}
    (hservice : serviceAddress? service = some base) (hplain : base.query = none)
    (howner : isName repo.owner.toList = true) (hname : isName repo.name.toList = true)
    (hpath : Undotted path) (href : ref ≠ "") :
    ((Query.file path (some ref)).address? base repo = none ↔
      Url.maxLength < (base.target ++ contents repo ++ percentPath path.toList).length ∨
        Url.maxLength < (refParameter ref).length) ∧
    (∀ u, (Query.file path (some ref)).address? base repo = some u →
      NamesFile (base.target ++ contents repo) u.target path ref ∧
        ∀ path' ref', Undotted path' → ref' ≠ "" → (path', ref') ≠ (path, ref) →
          ∀ u', (Query.file path' (some ref')).address? base repo = some u' →
            u'.target ≠ u.target) ∧
    ∀ c : Client, c.base = some base → ∀ s, ∃ sent,
      (c.file repo path (some ref) s).2.requests = s.requests ++ sent ∧
        ∀ x ∈ sent, NamesFile (base.target ++ contents repo) (c.targetOf x).toList path ref := by
  have hbase := Url.isBase_of_serviceAddress? hservice hplain
  refine ⟨?_, fun u hu => ⟨namesFile_target hbase howner hname hpath href hu, ?_⟩, ?_⟩
  · rw [address?_file hbase howner hname hpath href]
    split
    · next hlong => simp only [hlong]
    · next hshort => simp only [hshort, reduceCtorEq]
  · intro path' ref' hpath' href' hne u' hu' heq
    have hnames := namesFile_target hbase howner hname hpath href hu
    have hnames' := namesFile_target hbase howner hname hpath' href' hu'
    obtain ⟨rfl, rfl⟩ := (heq ▸ hnames').unique hnames
    exact hne rfl
  · intro c hc s
    obtain ⟨sent, hsent, htargets⟩ := c.target_of_get repo (.file path (some ref)) s
    refine ⟨sent, by rw [Client.session_file, hsent], fun x hx => ?_⟩
    obtain ⟨u, hu, htarget⟩ := htargets x hx
    rw [hc, Option.bind_some] at hu
    rw [htarget, String.toList_ofList]
    exact namesFile_target hbase howner hname hpath href hu

end SourceAudit.Remote

namespace SourceAudit.Sample

open Remote

/-- The address of the service. -/
def service : Url := ⟨"https".toList, [], "api.github.com".toList, none, [], none, none⟩

/-- A repository that is named in examples. -/
def helloWorld : Repository := ⟨"octocat", "hello-world", none⟩

/-- A path with marks, a blank, an escape and a letter beyond ASCII, at a version with a plus
sign. -/
theorem file_targets_marked :
    ∃ u, (Query.file "a b/50%25#?é" (some "v1+ü &x")).address? service helloWorld = some u ∧
      u.path = "/repos/octocat/hello-world/contents/a%20b/50%2525%23%3F%C3%A9".toList ∧
      u.query = some "ref=v1%2B%C3%BC+%26x".toList ∧
      NamesFile (service.target ++ contents helloWorld) u.target "a b/50%25#?é" "v1+ü &x" := by
  have hservice : serviceAddress? "https://api.github.com" = some service := by decide +kernel
  have haddress : (Query.file "a b/50%25#?é" (some "v1+ü &x")).address? service helloWorld =
    some { service with
      path := "/repos/octocat/hello-world/contents/a%20b/50%2525%23%3F%C3%A9".toList
      query := some "ref=v1%2B%C3%BC+%26x".toList } := by
    decide +kernel
  have hdots : Undotted "a b/50%25#?é" := by
    unfold Undotted Url.IsDot
    decide +kernel
  have howner : Repository.isName helloWorld.owner.toList = true := by decide +kernel
  have hname : Repository.isName helloWorld.name.toList = true := by decide +kernel
  have href : "v1+ü &x" ≠ "" := by decide
  obtain ⟨-, hnames, -⟩ := file_targets hservice rfl howner hname hdots href
  exact ⟨_, haddress, rfl, rfl, (hnames _ haddress).1⟩

end SourceAudit.Sample
