import SourceAudit.Proofs.Repository.Reading

/-!
# SourceAudit.Proofs.Repository.Canonical

The address of a repository's page, read again.

* `ofAddress?_parts` — what is read of a page's address, whatever owner and name are;
* `resolve_url` — so the address of a repository that was read names what its owner and its name
  make;
* `resolve_url_iff` — that is the repository itself, unless its name still has the ending of a clone
  address.
-/

namespace SourceAudit.Repository

open Text

section

variable {owner name : List Char} {r : Repository}

theorem isPart_of_mem_pair (howner : IsPart owner) (hname : IsPart name) :
    ∀ part ∈ [owner, name], IsPart part := by
  simp [howner, hname]

/-- The path of a page consists of its two parts and of slashes. -/
theorem mem_pair (howner : IsPart owner) (hname : IsPart name) {c : Char}
    (hc : c ∈ '/' :: joinPieces '/' [owner, name]) : c = '/' ∨ isRefChar c = true := by
  have hjoined : c ∈ '/' :: joinPieces '/' [owner, name] ++ List.replicate 0 '/' := by simpa using hc
  exact mem_joined (isPart_of_mem_pair howner hname) hjoined

/-- The path of a page is that of its owner and name. -/
theorem atPath?_parts (howner : IsPart owner) (hname : IsPart name) :
    atPath? ('/' :: joinPieces '/' [owner, name]) = build? owner name none := by
  have hsegments : segments ('/' :: joinPieces '/' [owner, name]) = [owner, name] := by
    simpa using segments_joinPieces (by simp) (isPart_of_mem_pair howner hname) 0
  have hescape : ('/' :: joinPieces '/' [owner, name]).contains '%' = false := by
    rw [List.contains_eq_mem, decide_eq_false_iff_not]
    intro hmem
    rcases mem_pair howner hname hmem with heq | hchar
    · simp at heq
    · exact ne_of_kind hchar (by decide) rfl
  simp only [atPath?, hsegments, hescape]
  simp [howner.ne_nil, hname.ne_nil]

/-- The address of a page of some owner and name. -/
def pageAddress (owner name : List Char) : List Char :=
  "https".toList ++ "://".toList ++ ("github.com".toList ++ '/' :: joinPieces '/' [owner, name])

-- The equation that comes with the definition is found by comparing the texts, which takes long.
theorem pageAddress_def : pageAddress owner name =
    "https".toList ++ "://".toList ++ ("github.com".toList ++ '/' :: joinPieces '/' [owner, name]) :=
  rfl

/-- **The address of a page** names what its owner and its name make. -/
theorem ofAddress?_parts (howner : IsPart owner) (hname : IsPart name) :
    ofAddress? (pageAddress owner name) = build? owner name none := by
  have hauthority : ("github.com".toList ++ '/' :: joinPieces '/' [owner, name]).takeWhile
      (fun c => !endsAuthority c) = "github.com".toList :=
    takeWhile_append_cons (List.all_eq_true.mp (by decide)) (by decide)
  have hpath : ('/' :: joinPieces '/' [owner, name]).takeWhile (fun c => c ≠ '?' && c ≠ '#') =
      '/' :: joinPieces '/' [owner, name] := by
    refine takeWhile_of_forall fun c hc => ?_
    rcases mem_pair howner hname hc with rfl | hchar
    · decide
    · simp [ne_of_kind (d := '?') hchar (by decide), ne_of_kind (d := '#') hchar (by decide)]
  have hhost : isHost "github.com".toList = true := isHost_of_mem_hosts (by decide)
  have hmark : hasSchemeMark (pageAddress owner name) = true :=
    (congrArg hasSchemeMark (List.append_assoc "https".toList "://".toList _)).trans
      (hasSchemeMark_append _ _)
  rw [ofAddress?_of_mark hmark, pageAddress_def, afterScheme?_append (.inr (by decide)),
    Option.bind_some, ofRest?]
  simp only [hauthority, hhost, if_true, List.drop_left, hpath, atPath?_parts howner hname]

/-! ## The address of a repository -/

theorem toList_fullName (r : Repository) :
    r.fullName.toList = joinPieces '/' [r.owner.toList, r.name.toList] := by
  rw [Repository.fullName, String.toList_append (s := r.owner ++ "/") (t := r.name),
    String.toList_append (s := r.owner) (t := "/"), List.append_assoc]
  rfl

/-- The address of a repository is that of its page. -/
theorem toList_url (r : Repository) : r.url.toList = pageAddress r.owner.toList r.name.toList := by
  have hfront : "https://github.com/".toList =
      "https".toList ++ "://".toList ++ "github.com".toList ++ ['/'] := by
    decide +kernel
  have hassoc : ∀ a b c d e : List Char, a ++ b ++ c ++ d ++ e = a ++ b ++ (c ++ (d ++ e)) := by
    simp
  -- Rewriting would compare the texts letter by letter, over and over.
  calc r.url.toList = "https://github.com/".toList ++ r.fullName.toList := String.toList_append
    _ = "https".toList ++ "://".toList ++ "github.com".toList ++ ['/'] ++
          joinPieces '/' [r.owner.toList, r.name.toList] :=
        congrArg₂ (· ++ ·) hfront (toList_fullName r)
    _ = pageAddress r.owner.toList r.name.toList := hassoc _ _ _ _ _

/-- The address of a page has no blanks in it. -/
theorem isPlain_of_mem_pageAddress (howner : IsPart owner) (hname : IsPart name) :
    ∀ c ∈ pageAddress owner name, isPlain c = true := by
  have hfront : ∀ c ∈ "https".toList ++ "://".toList, isPlain c = true :=
    List.all_eq_true.mp (by decide)
  have hhost : ∀ c ∈ "github.com".toList, isPlain c = true := List.all_eq_true.mp (by decide)
  intro c hc
  rcases List.mem_append.mp hc with hc | hc
  · exact hfront c hc
  · rcases List.mem_append.mp hc with hc | hc
    · exact hhost c hc
    · rcases mem_pair howner hname hc with rfl | hchar
      · decide
      · exact isPlain_of_isRefChar hchar

/-- It is short enough to be read. -/
theorem length_pageAddress_le (howner : isOwner owner = true) (hname : isName name = true) :
    (pageAddress owner name).length ≤ maxLocatorLength := by
  have hlength : ∀ front host : List Char, front.length = 8 → host.length = 10 →
      (front ++ (host ++ '/' :: joinPieces '/' [owner, name])).length =
        20 + owner.length + name.length := by
    intro front host hfront hhost
    simp only [List.length_append, List.length_cons, hfront, hhost, joinPieces]
    omega
  simp only [isOwner, isName, Bool.and_eq_true, decide_eq_true_eq] at howner hname
  have howner' : owner.length ≤ 39 := howner.1.1
  have hname' : name.length ≤ 100 := hname.1.1.1.1
  have hpage : (pageAddress owner name).length = 20 + owner.length + name.length :=
    hlength _ _ (by decide) (by decide)
  rw [hpage, maxLocatorLength]
  omega

/-- What the address of a repository's page names. -/
theorem resolve_url (howner : isOwner r.owner.toList = true) (hname : isName r.name.toList = true) :
    resolve (.str r.url) = build? r.owner.toList r.name.toList none := by
  have hpart := isPart_of_isOwner howner
  have hpart' := isPart_of_isName hname
  have hchars : ∀ c ∈ r.url.toList, isBlank c = false ∧ c ≠ '\\' := by
    rw [toList_url]
    intro c hc
    have hplain := isPlain_of_mem_pageAddress hpart hpart' c hc
    exact ⟨not_isBlank_of_isPlain hplain, ne_of_kind hplain (by decide)⟩
  have hlength : r.url.length ≤ maxLocatorLength := by
    rw [← String.length_toList, toList_url]
    exact length_pageAddress_le howner hname
  have hssh : ssh? r.url.toList = none := by
    rw [toList_url]
    exact ssh?_page (.inr (.inr (by decide))) (by decide) _
  have hne : r.url.toList ≠ [] := by
    rw [toList_url]
    exact List.append_ne_nil_of_left_ne_nil (by decide) _
  rw [resolve_of_page rfl hne hchars hlength hssh, toList_url, ofAddress?_parts hpart hpart']

/-- A repository is made again of its owner and its name, unless the name ends as a clone address
does. -/
theorem build?_eq_self_iff (h : IsBuilt r) :
    build? r.owner.toList r.name.toList none = some { r with ref := none } ↔
      gitSuffix.isSuffixOf r.name.toList = false := by
  rw [build?_eq_some_iff]
  constructor
  · rintro ⟨-, hname, heq⟩
    cases hsuffix : gitSuffix.isSuffixOf r.name.toList with
    | false => rfl
    | true =>
        -- The name would be as long as what is left of it without its ending.
        have hcut : withoutGit r.name.toList = r.name.toList.take (r.name.toList.length - 4) := by
          rw [withoutGit, h.name_lower, if_pos hsuffix]
        have hsame : r.name.toList = (withoutGit r.name.toList).map asciiLowerChar := by
          have hnames := congrArg (fun r => r.name.toList) heq
          simpa using hnames
        have hlength : 4 ≤ r.name.toList.length :=
          (List.isSuffixOf_iff_suffix.mp hsuffix).length_le
        have hlengths := congrArg List.length hsame
        rw [List.length_map, hcut, List.length_take] at hlengths
        omega
  · intro hsuffix
    have hcut : withoutGit r.name.toList = r.name.toList := by
      rw [withoutGit, h.name_lower, if_neg (by simp [hsuffix])]
    rw [hcut, h.owner_lower, h.name_lower, String.ofList_toList, String.ofList_toList]
    exact ⟨h.owner_valid, h.name_valid, rfl⟩

/-- **The address of a repository's page names the repository**, in no particular version, unless
its name has the ending of a clone address. -/
theorem resolve_url_iff {j : Json} (h : resolve j = some r) :
    resolve (.str r.url) = some { r with ref := none } ↔
      gitSuffix.isSuffixOf r.name.toList = false := by
  have hbuilt := isBuilt_of_resolve h
  rw [resolve_url hbuilt.owner_valid hbuilt.name_valid, build?_eq_self_iff hbuilt]

end

end SourceAudit.Repository

namespace SourceAudit.Sample

open Repository

theorem resolve_url_iff_clone :
    resolve (.str (Repository.url ⟨"octocat", "hello-world", none⟩)) =
        some ⟨"octocat", "hello-world", none⟩ ↔
      gitSuffix.isSuffixOf "hello-world".toList = false := by
  have hread : resolve (.str "git@github.com:OctoCat/Hello-World.git") =
      some ⟨"octocat", "hello-world", none⟩ := by
    decide +kernel
  exact resolve_url_iff hread

/-- Of two endings only one is taken off, so that the address of the page names another
repository. -/
theorem cloneTwice_renamed :
    resolve (.str "https://github.com/octocat/hello-world.git.git") =
        some ⟨"octocat", "hello-world.git", none⟩ ∧
      resolve (.str (Repository.url ⟨"octocat", "hello-world.git", none⟩)) =
        some ⟨"octocat", "hello-world", none⟩ := by
  decide +kernel

end SourceAudit.Sample
