import Mathlib.Algebra.GroupWithZero.Nat
import K8sOps.Gitops.KustomizeGraph
import K8sOps.Gitops.SourcePatchProofs

/-! The collected files of a kustomization graph: the traversal ends, stays inside the
repository and its limits, and follows every reference of the kustomizations that it reads as
such. -/
namespace K8sOps.Gitops
open Python Text

section inside

theorem normalizeTreePath_inside (accepted : normalizeTreePath path ≠ "") :
    Inside (normalizeTreePath path) := by
  refine ⟨accepted, ?_⟩
  rw [normalizeTreePath] at accepted ⊢
  dsimp only at accepted ⊢
  generalize stripSlashes (strip path).toList = text at accepted ⊢
  split at accepted
  next => exact absurd rfl accepted
  next readable =>
    rw [if_neg readable]
    split at accepted
    next => exact absurd rfl accepted
    next proper =>
      rw [if_neg proper]
      have nonempty : (text.splitOn '/').filter (· ≠ []) ≠ [] := by
        intro empty
        rw [empty] at accepted
        exact accepted rfl
      rw [slashed_joined (fun part member =>
        not_mem_of_mem_splitOn (List.mem_filter.mp member).1) nonempty]
      intro part member
      have named := (List.mem_filter.mp member).2
      simp only [List.any_eq_true, not_exists, not_and] at proper
      have other := proper part member
      simp only [Bool.or_eq_true, decide_eq_true_eq, not_or] at named other
      exact ⟨named, other⟩

theorem blobPaths_inside {repository : Repository}
    (member : path ∈ repository.blobPaths) : Inside path := by
  rw [Repository.blobPaths] at member
  obtain ⟨among, nonempty⟩ := List.mem_filter.mp member
  obtain ⟨item, _, rfl⟩ := List.mem_map.mp among
  exact normalizeTreePath_inside (by simpa using nonempty)

end inside

section fetching
variable {repository : Repository}

/-- Every file is one of the tree and was read once, within the limits. -/
structure Bounded (repository : Repository) (state : Collected) : Prop where
  distinct : (state.contents.map (·.1)).Nodup
  stored : ∀ file ∈ state.contents, file.1 ∈ repository.blobPaths ∧
    repository.content file.1 = .ok file.2
  files : state.contents.length ≤ maxRenderSourceFiles
  counted : state.totalBytes = (state.contents.map (·.2.size)).sum
  bytes : state.totalBytes ≤ maxRenderSourceBytes

theorem SourceContents.get_some {contents : SourceContents}
    (found : contents.get path = some content) :
    (path, content) ∈ contents := by
  obtain ⟨file, located, rfl⟩ := Option.map_eq_some_iff.mp found
  have same : file.1 = path := by simpa using List.find?_some located
  rw [← same]
  exact List.mem_of_find?_eq_some located

theorem SourceContents.get_none {contents : SourceContents} (absent : contents.get path = none) :
    path ∉ contents.map (·.1) := by
  intro member
  obtain ⟨file, among, rfl⟩ := List.mem_map.mp member
  have missing := List.find?_eq_none.mp (Option.map_eq_none_iff.mp absent) file among
  simp at missing

theorem fetch_ok (done : fetch repository path state = .ok (content, after)) :
    (path, content) ∈ after.contents ∧ state.contents <+: after.contents ∧
      (∀ file ∈ after.contents, file ∈ state.contents ∨ file.1 = path) ∧
      (Bounded repository state → Bounded repository after) := by
  rw [fetch] at done
  split at done
  next cached found =>
    cases done
    exact ⟨SourceContents.get_some found, List.prefix_refl _, fun _ member => .inl member, id⟩
  next absent =>
    split at done
    next => cases done
    next known =>
      split at done
      next => cases done
      next room =>
        split at done
        next => cases done
        next loaded read =>
          split at done
          next => cases done
          next fits =>
            cases done
            refine ⟨List.mem_append_right _ (List.mem_singleton_self _), List.prefix_append _ _, ?_,
              fun bounded => ?_⟩
            · intro file member
              rcases List.mem_append.mp member with old | new
              · exact .inl old
              · exact .inr (by rw [List.mem_singleton.mp new])
            · constructor
              · rw [List.map_append, List.map_singleton]
                refine List.nodup_append.mpr ⟨bounded.distinct, List.nodup_singleton _, ?_⟩
                rintro one old two new rfl
                rw [List.mem_singleton.mp new] at old
                exact SourceContents.get_none absent old
              · intro file member
                rcases List.mem_append.mp member with old | new
                · exact bounded.stored file old
                · rw [List.mem_singleton.mp new]
                  exact ⟨not_not.mp known, read⟩
              · rw [List.length_append, List.length_singleton]
                omega
              · rw [List.map_append, List.sum_append, bounded.counted]
                simp
              · exact Nat.le_of_not_lt fits

end fetching

section following
variable {repository : Repository} {sourceDir directory : String}

/-- What a reference of the kustomization in a directory denotes. -/
def Resolves (repository : Repository) (directory : String) (found : LocalReference)
    (reference : String) : Prop :=
  normalizeKustomizeLocalReference repository.texts found.rawReference found.field directory =
    .ok reference

/-- The reference is read as a file and not as the directory of a kustomization. -/
def NamesFile (repository : Repository) (directory : String) (found : LocalReference)
    (path : String) : Prop :=
  Resolves repository directory found path ∧
    ¬(found.mayBeDirectory = true ∧ path ∈ repositoryDirectories repository.blobPaths)

/-- Every reference is pushed or read, and nothing else is. -/
theorem followReferences_ok
    (done : followReferences repository sourceDir directory references state = .ok (more, after)) :
    state.contents <+: after.contents ∧ (Bounded repository state → Bounded repository after) ∧
      (∀ other ∈ more, other ∈ repositoryDirectories repository.blobPaths) ∧
      (∀ found ∈ references, ∃ reference, Resolves repository directory found reference ∧
        (reference ∈ more ∨ reference ∈ after.contents.map (·.1))) ∧
      (∀ file ∈ after.contents, file ∈ state.contents ∨
        ∃ found ∈ references, NamesFile repository directory found file.1) := by
  induction references generalizing state more with
  | nil =>
    cases done
    exact ⟨List.prefix_refl _, id, by simp, by simp, fun _ member => .inl member⟩
  | cons found references ih =>
    rw [followReferences] at done
    obtain ⟨reference, resolved, done⟩ := bind_eq_ok.mp done
    -- Whether the reference led out of the source directory does not matter to the files.
    have marked : ∃ marked : Collected, marked.contents = state.contents ∧
        (Bounded repository state → Bounded repository marked) ∧
        (if found.mayBeDirectory ∧ reference ∈ repositoryDirectories repository.blobPaths then do
            let pushed ← followReferences repository sourceDir directory references marked
            .ok (reference :: pushed.1, pushed.2)
          else do
            let read ← fetch repository reference marked
            followReferences repository sourceDir directory references read.2) =
              .ok (more, after) := by
      refine ⟨_, ?_, ?_, done⟩
      · split <;> rfl
      · intro bounded
        split
        · exact ⟨bounded.distinct, bounded.stored, bounded.files, bounded.counted, bounded.bytes⟩
        · exact bounded
    obtain ⟨marked, same, still, done⟩ := marked
    rw [← same]
    split at done
    next isDirectory =>
      obtain ⟨⟨pushed, final⟩, rest, done⟩ := bind_eq_ok.mp done
      cases done
      obtain ⟨grown, bounded, inside, covered, origins⟩ := ih rest
      refine ⟨grown, fun start => bounded (still start), ?_, ?_, ?_⟩
      · intro other member
        obtain rfl | later := List.mem_cons.mp member
        · exact isDirectory.2
        · exact inside other later
      · intro other member
        obtain rfl | later := List.mem_cons.mp member
        · exact ⟨reference, resolved, .inl List.mem_cons_self⟩
        · obtain ⟨target, resolves, reached⟩ := covered other later
          exact ⟨target, resolves, reached.imp_left (List.mem_cons_of_mem _)⟩
      · intro file member
        exact (origins file member).imp_right fun ⟨other, among, named⟩ =>
          ⟨other, List.mem_cons_of_mem _ among, named⟩
    next isFile =>
      obtain ⟨⟨content, read⟩, fetched, done⟩ := bind_eq_ok.mp done
      obtain ⟨present, added, only, kept⟩ := fetch_ok fetched
      obtain ⟨grown, bounded, inside, covered, origins⟩ := ih done
      refine ⟨added.trans grown, fun start => bounded (kept (still start)), inside, ?_, ?_⟩
      · intro other member
        obtain rfl | later := List.mem_cons.mp member
        · exact ⟨reference, resolved, .inr (List.mem_map.mpr ⟨_, grown.subset present, rfl⟩)⟩
        · exact covered other later
      · intro file member
        obtain old | ⟨other, among, named⟩ := origins file member
        · obtain before | rfl := only file old
          · exact .inl before
          · exact .inr ⟨found, List.mem_cons_self, resolved, isFile⟩
        · exact .inr ⟨other, List.mem_cons_of_mem _ among, named⟩

end following

section visiting
variable {repository : Repository} {sourceDir : String}

/-- The file holds a kustomization with these references. -/
def Refers (repository : Repository) (file : String × ByteArray)
    (references : List LocalReference) : Prop :=
  ∃ document, parseIn repository file.2 file.1 = .ok document ∧
    kustomizeLocalReferences repository.texts document = .ok references

/-- The file is the kustomization of the directory, with these references. -/
def Kustomizes (repository : Repository) (contents : SourceContents) (directory : String)
    (file : String × ByteArray) (references : List LocalReference) : Prop :=
  findKustomizationPath directory repository.blobPaths = .ok file.1 ∧ file ∈ contents ∧
    Refers repository file references

theorem visitDirectory_ok
    (done : visitDirectory repository sourceDir directory state = .ok (more, after)) :
    ∃ kustomization references, Kustomizes repository after.contents directory
      kustomization references ∧
      state.contents <+: after.contents ∧ (Bounded repository state → Bounded repository after) ∧
      (∀ other ∈ more, other ∈ repositoryDirectories repository.blobPaths) ∧
      (∀ found ∈ references, ∃ reference, Resolves repository directory found reference ∧
        (reference ∈ more ∨ reference ∈ after.contents.map (·.1))) ∧
      (∀ file ∈ after.contents, file ∈ state.contents ∨ file.1 = kustomization.1 ∨
        ∃ found ∈ references, NamesFile repository directory found file.1) := by
  rw [visitDirectory] at done
  obtain ⟨path, located, done⟩ := bind_eq_ok.mp done
  obtain ⟨⟨content, read⟩, fetched, done⟩ := bind_eq_ok.mp done
  obtain ⟨document, parsed, done⟩ := bind_eq_ok.mp done
  obtain ⟨references, listed, done⟩ := bind_eq_ok.mp done
  obtain ⟨present, added, only, kept⟩ := fetch_ok fetched
  obtain ⟨grown, bounded, inside, covered, origins⟩ := followReferences_ok done
  refine ⟨(path, content), references, ⟨located, grown.subset present, document, parsed, listed⟩,
    added.trans grown, fun start => bounded (kept start), inside, covered, ?_⟩
  intro file member
  obtain old | named := origins file member
  · exact (only file old).imp_right .inl
  · exact .inr (.inr named)

/-- The kustomization of a directory was read, and each of its references is a file that was
read or a directory among those given. -/
def Followed (repository : Repository) (contents : SourceContents) (reached : List String)
    (directory : String) : Prop :=
  ∃ kustomization references, Kustomizes repository contents directory kustomization references ∧
    ∀ found ∈ references, ∃ reference, Resolves repository directory found reference ∧
      (reference ∈ contents.map (·.1) ∨ reference ∈ reached)

theorem Followed.mono {contents later : SourceContents} {reached more : List String}
    (followed : Followed repository contents reached directory) (grown : contents ⊆ later)
    (wider : reached ⊆ more) : Followed repository later more directory := by
  obtain ⟨kustomization, references, ⟨located, present, refers⟩, covered⟩ := followed
  refine ⟨kustomization, references, ⟨located, grown present, refers⟩, fun found member => ?_⟩
  obtain ⟨reference, resolves, read | pushed⟩ := covered found member
  · exact ⟨reference, resolves, .inl (List.map_subset _ grown read)⟩
  · exact ⟨reference, resolves, .inr (wider pushed)⟩

/-- The kustomization of one of the directories names the file. -/
def NamedAsFile (repository : Repository) (contents : SourceContents) (visited : List String)
    (path : String) : Prop :=
  ∃ directory ∈ visited, ∃ kustomization references,
    Kustomizes repository contents directory kustomization references ∧
    ∃ found ∈ references, NamesFile repository directory found path

/-- Where a file comes from: it is the kustomization of a visited directory, or one of those
names it. -/
def Reached (repository : Repository) (contents : SourceContents) (visited : List String)
    (path : String) : Prop :=
  (∃ directory ∈ visited, findKustomizationPath directory repository.blobPaths = .ok path) ∨
    NamedAsFile repository contents visited path

theorem Reached.mono {contents later : SourceContents}
    (reached : Reached repository contents visited path) (grown : contents ⊆ later)
    (more : visited ⊆ visits) : Reached repository later visits path := by
  obtain ⟨directory, visited, located⟩ | ⟨directory, visited, kustomization, references, read,
    named⟩ := reached
  · exact .inl ⟨directory, more visited, located⟩
  · obtain ⟨located, present, refers⟩ := read
    exact .inr ⟨directory, more visited, kustomization, references,
      ⟨located, grown present, refers⟩, named⟩

/-- Between two rounds of the loop. -/
structure Traversed (repository : Repository) (sourceDir : String) (pending visited : List String)
    (state : Collected) : Prop where
  bounded : Bounded repository state
  started : sourceDir ∈ visited ++ pending
  followed : ∀ directory ∈ visited,
    Followed repository state.contents (visited ++ pending) directory
  origins : ∀ file ∈ state.contents, Reached repository state.contents visited file.1

theorem Traversed.skip
    (traversed : Traversed repository sourceDir (directory :: pending) visited state)
    (seen : directory ∈ visited) : Traversed repository sourceDir pending visited state := by
  have narrower : visited ++ directory :: pending ⊆ visited ++ pending := by
    intro reached among
    rcases List.mem_append.mp among with old | waiting
    · exact List.mem_append_left _ old
    · obtain rfl | later := List.mem_cons.mp waiting
      · exact List.mem_append_left _ seen
      · exact List.mem_append_right _ later
  exact ⟨traversed.bounded, narrower traversed.started,
    fun other member => (traversed.followed other member).mono (List.Subset.refl _) narrower,
    traversed.origins⟩

theorem Traversed.visit
    (traversed : Traversed repository sourceDir (directory :: pending) visited state)
    (done : visitDirectory repository sourceDir directory state = .ok (more, after)) :
    Traversed repository sourceDir (more.reverse ++ pending) (directory :: visited) after := by
  obtain ⟨kustomization, references, read, grown, bounded, _, covered, origins⟩ :=
    visitDirectory_ok done
  have wider : visited ++ directory :: pending ⊆
      directory :: visited ++ (more.reverse ++ pending) := by
    intro reached among
    rcases List.mem_append.mp among with old | waiting
    · exact List.mem_append_left _ (List.mem_cons_of_mem _ old)
    · obtain rfl | later := List.mem_cons.mp waiting
      · exact List.mem_append_left _ List.mem_cons_self
      · exact List.mem_append_right _ (List.mem_append_right _ later)
  refine ⟨bounded traversed.bounded, wider traversed.started,
    fun other member => ?_, fun file member => ?_⟩
  · obtain rfl | earlier := List.mem_cons.mp member
    · refine ⟨kustomization, references, read, fun found among => ?_⟩
      obtain ⟨reference, resolves, pushed | fetched⟩ := covered found among
      · exact ⟨reference, resolves, .inr (by simp [pushed])⟩
      · exact ⟨reference, resolves, .inl fetched⟩
    · exact (traversed.followed other earlier).mono grown.subset wider
  · obtain old | same | named := origins file member
    · exact (traversed.origins file old).mono grown.subset (List.subset_cons_self _ _)
    · exact .inl ⟨directory, List.mem_cons_self, same ▸ read.1⟩
    · exact .inr ⟨directory, List.mem_cons_self, kustomization, references, read, named⟩

end visiting

section collection

/-- The traversal of every repository ends, and no directory is visited twice. On success the
source directory was visited, and the returned files are files of the tree inside the repository,
within the limits. They are closed: each visited directory has its kustomization among them, and
each reference of that is one of them or a visited directory. A returned file is the kustomization
of a visited directory, or one of those names it as a file. -/
theorem collectKustomizeSourceContents_closed (repository : Repository) (sourceDir : String) :
    ∃ fuel visited result,
      (∀ more, collectKustomizeSourceContents repository sourceDir (fuel + more) =
        some (visited, result)) ∧
      visited.Nodup ∧ ∀ found, result = .ok found →
        sourceDir ∈ visited ∧
        (∀ file ∈ found.contents, file.1 ∈ repository.blobPaths ∧ Inside file.1 ∧
          repository.content file.1 = .ok file.2) ∧
        (found.contents.map (·.1)).Nodup ∧ found.contents.length ≤ maxRenderSourceFiles ∧
        (found.contents.map (·.2.size)).sum ≤ maxRenderSourceBytes ∧
        (∀ directory ∈ visited, Followed repository found.contents visited directory) ∧
        ∀ file ∈ found.contents, Reached repository found.contents visited file.1 := by
  obtain ⟨fuel, ⟨visited, ended⟩, done⟩ : ∃ fuel ended,
      Worklist.run (visitDirectory repository sourceDir) fuel [sourceDir] [] ⟨[], 0, false⟩ =
        some ended := by
    apply Worklist.run_terminates (sourceDir :: repositoryDirectories repository.blobPaths).toFinset
    · intro directory state more after moved other member
      obtain ⟨_, _, _, _, _, inside, _⟩ := visitDirectory_ok moved
      simp [inside other member]
    · intro directory member
      simp [List.mem_singleton.mp member]
  by_cases large : maxRenderSourceFiles <
      ((repository.blobPaths.filter (pathIsUnderDirectory · sourceDir)).dedup).length
  · refine ⟨fuel, [], .error (limitText "file" _ maxRenderSourceFiles), fun more => if_pos large,
      List.nodup_nil, fun found returned => ?_⟩
    cases returned
  · refine ⟨fuel, visited, ended.map collection,
      fun more => ?_, Worklist.run_nodup List.nodup_nil done, fun found returned => ?_⟩
    · rw [collectKustomizeSourceContents, if_neg large, Worklist.run_mono done more]
      rfl
    · cases ended with
      | error => cases returned
      | ok state =>
        cases returned
        have traversed : Traversed repository sourceDir [] visited state := by
          refine Worklist.run_invariant (Traversed repository sourceDir) ?_ ?_ ?_ done
          · intro directory pending visited state seen traversed
            exact traversed.skip seen
          · intro directory pending visited state more after _ traversed moved
            exact traversed.visit moved
          · exact ⟨⟨List.nodup_nil, nofun, Nat.zero_le _, rfl, Nat.zero_le _⟩,
              List.mem_singleton_self _, nofun, nofun⟩
        obtain ⟨bounded, started, followed, origins⟩ := traversed
        rw [List.append_nil] at started followed
        refine ⟨started, fun file member => ?_, bounded.distinct, bounded.files,
          bounded.counted ▸ bounded.bytes, followed, origins⟩
        obtain ⟨isBlob, read⟩ := bounded.stored file member
        exact ⟨isBlob, blobPaths_inside isBlob, read⟩

section sample

def nestedRepository : Repository where
  runtime := { sampleRuntime with
    safeLoad := fun text =>
      .ok (.dict [(.str "resources", .list [.scalar (.str
        (if text = "kustomization.yaml" then "base/kustomization.yaml" else "deploy.yaml"))])]) }
  texts := .plain
  tree := ["kustomization.yaml", "base/kustomization.yaml", "base/deploy.yaml"].map fun path =>
    [(.str "type", .scalar (.str "blob")), (.str "path", .scalar (.str path))]
  content path := .ok path.toUTF8

/-- A kustomization that is named as a file is returned, and what it refers to is not. -/
theorem collectKustomizeSourceContents_open : ∃ visited found,
    collectKustomizeSourceContents nestedRepository "." 2 = some (visited, .ok found) ∧
      ("base/kustomization.yaml", "base/kustomization.yaml".toUTF8) ∈ found.contents ∧
      isKustomizationFile "base/kustomization.yaml" = true ∧
      Refers nestedRepository ("base/kustomization.yaml", "base/kustomization.yaml".toUTF8)
        [⟨"resources", "deploy.yaml", true⟩] ∧
      Resolves nestedRepository "base" ⟨"resources", "deploy.yaml", true⟩ "base/deploy.yaml" ∧
      "base/deploy.yaml" ∉ found.contents.map (·.1) ∧
      ∀ path, findKustomizationPath "base/deploy.yaml" nestedRepository.blobPaths ≠ .ok path := by
  have ran : (collectKustomizeSourceContents nestedRepository "." 2).map (fun ended =>
      ended.2.toOption.map (·.contents)) =
        some (some [("kustomization.yaml", "kustomization.yaml".toUTF8),
          ("base/kustomization.yaml", "base/kustomization.yaml".toUTF8)]) := by decide +kernel
  have text : String.fromUTF8? "base/kustomization.yaml".toUTF8 =
      some "base/kustomization.yaml" := by
    decide +kernel
  obtain ⟨⟨visited, result⟩, done, shown⟩ := Option.map_eq_some_iff.mp ran
  obtain ⟨found, returned, contents⟩ := Option.map_eq_some_iff.mp shown
  refine ⟨visited, found, by rw [done, ← toOption_ok returned], by rw [contents]; simp, by decide,
    ?_, toOption_ok (by decide +kernel), by rw [contents]; decide, ?_⟩
  · refine ⟨[(.str "resources", .list [.scalar (.str "deploy.yaml")])], ?_,
      toOption_ok (by decide +kernel)⟩
    rw [parseIn, parseKustomizationDocument, text]
    rfl
  · intro path located
    have absent : (findKustomizationPath "base/deploy.yaml" nestedRepository.blobPaths).toOption =
        none := by
      decide +kernel
    rw [located] at absent
    cases absent

end sample

end collection

end K8sOps.Gitops
