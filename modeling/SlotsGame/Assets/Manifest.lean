/-
# SlotsGame.Assets.Manifest -- the manifest of the asset packages

`validateAssetPackageManifest` checks a manifest and orders its packages by their
dependencies.  `ValidatedManifest` is what the manager keeps of an accepted one: the
packages, and an order that lists each of them once, after all it depends on
(`ValidatedManifest.ofAccepted`).

`dependencyClosureIds` is the unit of ownership: what `mem_dependencyClosureIds` says
of it is all that the accounting needs.
-/
import SlotsGame.Theory.Dependencies
import SlotsGame.Theory.Effects

namespace SlotsGame.Assets

open SlotsGame.Theory

set_option autoImplicit false

/-! ## The manifest -/

inductive AssetPackageStage
  | startupShell | baseCritical | interactionReady | featureOnDemand
  deriving DecidableEq, Repr

structure AssetPackageResourceSpec where
  id : String
  url : String
  bytes : Nat
  sha256 : String
  decoder : String
  deriving DecidableEq

structure AssetPackageSpec where
  id : String
  version : String
  stage : AssetPackageStage
  dependsOn : List String := []
  resources : List AssetPackageResourceSpec
  deriving DecidableEq

structure AssetPackageManifest where
  schemaVersion : Nat
  assetSet : String
  packages : List AssetPackageSpec

/-- The white space that `String.prototype.trim` removes. -/
def trimmed (c : Char) : Bool :=
  ('\t' ≤ c ∧ c ≤ '\r') || c == ' ' || c == '\u00a0' || c == '\u1680' ||
    ('\u2000' ≤ c ∧ c ≤ '\u200a') || c == '\u2028' || c == '\u2029' || c == '\u202f' ||
    c == '\u205f' || c == '\u3000' || c == '\ufeff'

def validToken (value : String) : Bool := value.toList.any fun c => !trimmed c

def isSafeAssetUrl (url : String) : Bool :=
  url.startsWith "/" && !url.startsWith "//" && !url.toList.contains '\\' &&
    !url.toList.contains '\x00'

/-- `/^[a-f0-9]{64}$/`. -/
def sha256Pattern (digest : String) : Bool :=
  digest.length == 64 && digest.toList.all fun c => ('a' ≤ c ∧ c ≤ 'f') || c.isDigit

/-- `NETWORK_RESPONSE_LIMITS.assetPackageResourceBytes`. -/
def assetPackageResourceBytes : Nat := 16 * 1024 * 1024

/-! ## Validation -/

/-- The sets that `validateAssetPackageManifest` fills on its way. -/
structure Seen where
  packageIds : List String := []
  resourceIds : List String := []
  urls : List String := []

def quoted (text : String) : String := "\"" ++ text ++ "\""

def checkResource (entry : AssetPackageSpec) (seen : Seen) (resource : AssetPackageResourceSpec) :
    Except String Seen := do
  refuse (validToken resource.id = false)
    s!"Asset package {quoted entry.id} has an empty resource id"
  refuse (resource.id ∈ seen.resourceIds) s!"Duplicate asset resource id {quoted resource.id}"
  refuse (isSafeAssetUrl resource.url = false)
    s!"Asset resource {quoted resource.id} URL must be a root-relative same-origin path"
  refuse (resource.url ∈ seen.urls) s!"Duplicate asset resource URL {quoted resource.url}"
  refuse (resource.bytes = 0) s!"Asset resource {quoted resource.id} bytes must be positive"
  refuse (assetPackageResourceBytes < resource.bytes)
    s!"Asset resource {quoted resource.id} exceeds the per-resource safety limit"
  refuse (sha256Pattern resource.sha256.toLower = false)
    s!"Asset resource {quoted resource.id} has an invalid SHA-256"
  refuse (validToken resource.decoder = false)
    s!"Asset resource {quoted resource.id} decoder must not be empty"
  pure { seen with
    resourceIds := resource.id :: seen.resourceIds
    urls := resource.url :: seen.urls }

def checkPackage (seen : Seen) (entry : AssetPackageSpec) : Except String Seen := do
  refuse (validToken entry.id = false) "Asset package id must not be empty"
  refuse (entry.id ∈ seen.packageIds) s!"Duplicate asset package id {quoted entry.id}"
  refuse (validToken entry.version = false)
    s!"Asset package {quoted entry.id} version must not be empty"
  refuse (entry.resources = []) s!"Asset package {quoted entry.id} resources must not be empty"
  refuse (¬ entry.dependsOn.Nodup) s!"Asset package {quoted entry.id} has duplicate dependencies"
  entry.resources.foldlM (checkResource entry)
    { seen with packageIds := entry.id :: seen.packageIds }

/-- What is kept of an entry: the digests in lower case. -/
def AssetPackageSpec.normalized (entry : AssetPackageSpec) : AssetPackageSpec :=
  { entry with
    resources := entry.resources.map fun resource =>
      { resource with sha256 := resource.sha256.toLower } }

/-- The package with an id, in a list of them. -/
def specOf (packages : List AssetPackageSpec) (id : String) : Option AssetPackageSpec :=
  packages.find? fun entry => entry.id == id

def dependenciesOf (packages : List AssetPackageSpec) (id : String) : List String :=
  ((specOf packages id).map AssetPackageSpec.dependsOn).getD []

def checkDependencies (packages : List AssetPackageSpec) (entry : AssetPackageSpec) :
    Except String Unit :=
  entry.dependsOn.forM fun dependency => do
    refuse (dependency ∉ packages.map AssetPackageSpec.id)
      s!"Asset package {quoted entry.id} depends on unknown package {quoted dependency}"
    refuse (dependency = entry.id) s!"Asset package {quoted entry.id} dependency cycle"

/-- A path without repetition is no longer than the list of packages. -/
def topologicalPackageOrder (packages : List AssetPackageSpec) : Except String (List String) :=
  match (packages.map AssetPackageSpec.id).foldlM
      (visitOrder (dependenciesOf packages) (packages.length + 1) []) [] with
  | .ok order => .ok order
  | .error id => .error s!"Asset package dependency cycle at {quoted id}"

def validateAssetPackageManifest (input : AssetPackageManifest) :
    Except String (List AssetPackageSpec × List String) := do
  refuse (input.schemaVersion ≠ 1) "Asset package manifest schemaVersion must equal 1"
  refuse (validToken input.assetSet = false) "Asset package manifest assetSet must not be empty"
  let _ ← input.packages.foldlM checkPackage {}
  let packages := input.packages.map AssetPackageSpec.normalized
  packages.forM (checkDependencies packages)
  let order ← topologicalPackageOrder packages
  pure (packages, order)

/-! ## What an accepted manifest is -/

/-- The packages of an accepted manifest and their order. -/
structure ValidatedManifest where
  packages : List AssetPackageSpec
  dependencyOrder : List String
  unique : (packages.map AssetPackageSpec.id).Nodup
  complete : ∀ id, id ∈ dependencyOrder ↔ id ∈ packages.map AssetPackageSpec.id
  distinct : dependencyOrder.Nodup
  ordered : Ordered (dependenciesOf packages) dependencyOrder

theorem checkResource_packageIds {entry : AssetPackageSpec} {seen after : Seen}
    {resource : AssetPackageResourceSpec} (accepted : checkResource entry seen resource = .ok after) :
    after.packageIds = seen.packageIds := by
  simp only [checkResource, bind_ok, refuse_ok, exists_unit, pure_ok] at accepted
  obtain ⟨_, _, _, _, _, _, _, _, rfl⟩ := accepted
  rfl

theorem checkPackage_packageIds {entry : AssetPackageSpec} {seen after : Seen}
    (accepted : checkPackage seen entry = .ok after) :
    entry.id ∉ seen.packageIds ∧ after.packageIds = entry.id :: seen.packageIds := by
  simp only [checkPackage, bind_ok, refuse_ok, exists_unit] at accepted
  obtain ⟨_, fresh, _, _, _, resources⟩ := accepted
  refine ⟨fresh, ?_⟩
  refine foldlM_ok_invariant (fun _ state => state.packageIds = entry.id :: seen.packageIds)
    resources rfl ?_
  intro _ resource state next _ same stepped
  rw [checkResource_packageIds stepped, same]

/-- No two packages of an accepted manifest share an id. -/
theorem checkPackage_distinct {packages : List AssetPackageSpec} {after : Seen}
    (accepted : packages.foldlM checkPackage {} = .ok after) :
    (packages.map AssetPackageSpec.id).Nodup := by
  have seen : after.packageIds = (packages.map AssetPackageSpec.id).reverse ∧
      (packages.map AssetPackageSpec.id).Nodup := by
    refine foldlM_ok_invariant (fun before state =>
      state.packageIds = (before.map AssetPackageSpec.id).reverse ∧
        (before.map AssetPackageSpec.id).Nodup) accepted ⟨rfl, List.nodup_nil⟩ ?_
    intro before entry state next _ ⟨same, distinct⟩ stepped
    obtain ⟨fresh, extended⟩ := checkPackage_packageIds stepped
    rw [same, List.mem_reverse] at fresh
    refine ⟨by simp [extended, same], ?_⟩
    rw [List.map_append, List.nodup_append]
    refine ⟨distinct, List.nodup_singleton _, ?_⟩
    rintro x member y single rfl
    exact fresh (List.mem_singleton.mp single ▸ member)
  exact seen.2

theorem specOf_id {packages : List AssetPackageSpec} {id : String} {entry : AssetPackageSpec}
    (found : specOf packages id = some entry) : entry ∈ packages ∧ entry.id = id := by
  refine ⟨List.mem_of_find?_eq_some found, ?_⟩
  simpa using List.find?_some found

theorem mem_dependenciesOf {packages : List AssetPackageSpec} {id dependency : String}
    (needed : dependency ∈ dependenciesOf packages id) :
    ∃ entry ∈ packages, entry.id = id ∧ dependency ∈ entry.dependsOn := by
  unfold dependenciesOf at needed
  cases found : specOf packages id with
  | none => simp [found] at needed
  | some entry =>
      obtain ⟨member, same⟩ := specOf_id found
      exact ⟨entry, member, same, by simpa [found] using needed⟩

theorem normalized_ids (packages : List AssetPackageSpec) :
    (packages.map AssetPackageSpec.normalized).map AssetPackageSpec.id =
      packages.map AssetPackageSpec.id := by
  rw [List.map_map]
  rfl

theorem topologicalPackageOrder_valid {packages : List AssetPackageSpec} {order : List String}
    (known : Closed (dependenciesOf packages) (packages.map AssetPackageSpec.id))
    (accepted : topologicalPackageOrder packages = .ok order) :
    (∀ id, id ∈ order ↔ id ∈ packages.map AssetPackageSpec.id) ∧ order.Nodup ∧
      Ordered (dependenciesOf packages) order := by
  unfold topologicalPackageOrder at accepted
  split at accepted
  · next result done =>
      obtain rfl := Except.ok.inj accepted
      obtain ⟨ordered, distinct, within, _, present⟩ := visitOrder_ordered known
        (fun _ member => member) Ordered.nil List.nodup_nil (List.nil_subset _) done
      exact ⟨fun id => ⟨fun member => within member, fun member => present member⟩, distinct,
        ordered⟩
  · cases accepted

theorem validateAssetPackageManifest_valid {input : AssetPackageManifest}
    {packages : List AssetPackageSpec} {order : List String}
    (accepted : validateAssetPackageManifest input = .ok (packages, order)) :
    (packages.map AssetPackageSpec.id).Nodup ∧
      (∀ id, id ∈ order ↔ id ∈ packages.map AssetPackageSpec.id) ∧ order.Nodup ∧
        Ordered (dependenciesOf packages) order := by
  simp only [validateAssetPackageManifest, bind_ok, refuse_ok, exists_unit, pure_ok,
    Prod.mk.injEq] at accepted
  obtain ⟨_, _, seen, checked, declared, found, sorted, rfl, rfl⟩ := accepted
  have known : Closed (dependenciesOf (input.packages.map AssetPackageSpec.normalized))
      ((input.packages.map AssetPackageSpec.normalized).map AssetPackageSpec.id) := by
    intro id _ dependency needed
    obtain ⟨entry, member, rfl, listed⟩ := mem_dependenciesOf needed
    have each := forM_ok.mp declared entry member
    have one := forM_ok.mp each dependency listed
    simp only [bind_ok, refuse_ok, exists_unit, not_not] at one
    exact one.1
  refine ⟨?_, topologicalPackageOrder_valid known sorted⟩
  rw [normalized_ids]
  exact checkPackage_distinct checked

/-- An accepted manifest, as the manager keeps it. -/
def ValidatedManifest.ofAccepted {input : AssetPackageManifest} {packages : List AssetPackageSpec}
    {order : List String}
    (accepted : validateAssetPackageManifest input = .ok (packages, order)) : ValidatedManifest :=
  have valid := validateAssetPackageManifest_valid accepted
  { packages := packages
    dependencyOrder := order
    unique := valid.1
    complete := valid.2.1
    distinct := valid.2.2.1
    ordered := valid.2.2.2 }

namespace ValidatedManifest

variable (manifest : ValidatedManifest)

/-- The position of a package in the order; it is above those of its dependencies. -/
def rank (id : String) : Nat := manifest.dependencyOrder.idxOf id

theorem rank_lt (id : String) :
    ∀ d ∈ dependenciesOf manifest.packages id, manifest.rank d < manifest.rank id := by
  intro d needed
  obtain ⟨entry, member, rfl, _⟩ := mem_dependenciesOf needed
  have listed : entry.id ∈ manifest.dependencyOrder :=
    (manifest.complete _).mpr (List.mem_map_of_mem member)
  exact manifest.ordered.rank_lt manifest.distinct listed needed

/-- The ids of the targets and of all they depend on, in dependency order. -/
def dependencyClosureIds (targetIds : List String) : List String :=
  manifest.dependencyOrder.filter fun id =>
    id ∈ closureOf (dependenciesOf manifest.packages) (manifest.dependencyOrder.length + 1) targetIds

theorem dependencyClosureIds_nodup (targetIds : List String) :
    (manifest.dependencyClosureIds targetIds).Nodup := manifest.distinct.filter _

theorem dependencyClosureIds_subset (targetIds : List String) :
    manifest.dependencyClosureIds targetIds ⊆ manifest.dependencyOrder :=
  List.filter_subset_self _

/-- The closure holds what the targets need, and nothing else. -/
theorem mem_dependencyClosureIds {targetIds : List String}
    (known : targetIds ⊆ manifest.dependencyOrder) {id : String} :
    id ∈ manifest.dependencyClosureIds targetIds ↔
      ∃ target ∈ targetIds, Needs (dependenciesOf manifest.packages) target id := by
  have within : ∀ target ∈ targetIds, manifest.rank target < manifest.dependencyOrder.length + 1 :=
    fun target _ => Nat.lt_succ_of_le List.idxOf_le_length
  have members := @mem_closureOf _ _ (dependenciesOf manifest.packages) manifest.rank _ targetIds
    manifest.rank_lt within id
  unfold dependencyClosureIds
  rw [List.mem_filter, decide_eq_true_iff, members, and_iff_right_iff_imp]
  rintro ⟨target, member, needs⟩
  clear members
  induction needs with
  | refl => exact known member
  | tail _ needed ih => exact manifest.ordered.closed _ ih _ needed

theorem target_mem_closure {targetIds : List String}
    (known : targetIds ⊆ manifest.dependencyOrder) {target : String} (member : target ∈ targetIds) :
    target ∈ manifest.dependencyClosureIds targetIds :=
  (manifest.mem_dependencyClosureIds known).mpr ⟨target, member, .refl⟩

/-- A closure holds the dependencies of what it holds. -/
theorem closure_closed {targetIds : List String} (known : targetIds ⊆ manifest.dependencyOrder) :
    Closed (dependenciesOf manifest.packages) (manifest.dependencyClosureIds targetIds) := by
  intro id member d needed
  obtain ⟨target, wanted, needs⟩ := (manifest.mem_dependencyClosureIds known).mp member
  exact (manifest.mem_dependencyClosureIds known).mpr ⟨target, wanted, needs.tail needed⟩

end ValidatedManifest

end SlotsGame.Assets
