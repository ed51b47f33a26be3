import Workbench.Proofs.Package.Placement
import Workbench.Proofs.Remote.Settlement

/-!
# What fetching a package comes to

A fetch ends after at most two requests, in a way that depends on the answers alone. What it brings
is the package that was asked for, with types that have a place below its home.
-/

namespace Workbench

namespace PackageFetch

variable {name : String}

/-- A fetch that waits is one of a package with a proper name and, once known, a proper entry. -/
def Sound (name : String) : PackageFetch → Prop
  | manifest _ asked _ => Package.isName name = true ∧ asked = name
  | declarations descriptor _ _ _ => Package.isName name = true ∧ descriptor.name = name ∧
      Package.IsEntry descriptor.entry

/-- A fetched package is the one that was asked for, and its files have their places. -/
structure Fits (name : String) (package : FetchedPackage) : Prop where
  /-- The name is a proper one. -/
  valid : Package.isName name = true
  /-- The package is the one that was asked for. -/
  name_eq : package.descriptor.name = name
  /-- Its types are below its home. -/
  isEntry : Package.IsEntry package.descriptor.entry

/-- The number of documents that are still to come at most. -/
def remaining : PackageFetch → Nat
  | manifest .. => 2
  | declarations .. => 1

/-- Where a fetch may stand that is to end within so many rounds. -/
def Standing (name : String) (rounds : Nat) :
    Progress PackageFetch (Except FetchError FetchedPackage) → Prop
  | .waiting _ fetch => fetch.Sound name ∧ fetch.remaining ≤ rounds
  | .done (.ok package) => Fits name package
  | .done (.error _) => True

/-- A fetch starts with all its rounds before it. -/
theorem standing_start (registry : PackageRegistry) (name : String) :
    Standing name PackageFetch.rounds (start registry name) := by
  refine Progress.holds_ofAttempt (fun _ => trivial) fun progress success => ?_
  obtain ⟨_, checked, success⟩ := exists_of_bind_eq_ok success
  obtain ⟨url, _, success⟩ := exists_of_bind_eq_ok success
  obtain rfl := Except.ok.inj success
  rw [Package.checkName] at checked
  split at checked
  next valid => exact ⟨⟨valid, rfl⟩, Nat.le_refl _⟩
  next => exact nomatch checked

theorem standing_resume {fetch : PackageFetch} {rounds : Nat} (sound : fetch.Sound name)
    (bound : fetch.remaining ≤ rounds + 1) (reply : Reply) :
    Standing name rounds (fetch.resume reply) := by
  refine Progress.holds_ofAttempt (fun _ => trivial) fun progress success => ?_
  cases fetch with
  | manifest registry asked url =>
      obtain ⟨valid, rfl⟩ := sound
      obtain ⟨text, _, success⟩ := exists_of_bind_eq_ok success
      obtain ⟨declared, _, success⟩ := exists_of_bind_eq_ok success
      cases entry_eq : declared.typesEntry? with
      | none =>
          rw [entry_eq] at success
          exact nomatch success
      | some given =>
          rw [entry_eq] at success
          obtain ⟨entry, accepted, success⟩ := exists_of_bind_eq_ok success
          obtain ⟨url, _, success⟩ := exists_of_bind_eq_ok success
          obtain rfl := Except.ok.inj success
          exact ⟨⟨valid, rfl, Package.isEntry_of_entryPath accepted⟩, Nat.le_of_succ_le_succ bound⟩
  | declarations descriptor version manifest url =>
      obtain ⟨text, _, success⟩ := exists_of_bind_eq_ok success
      obtain rfl := Except.ok.inj success
      exact ⟨sound.1, sound.2.1, sound.2.2⟩

/-- A fetch ends within its rounds, and what it brings has its place. -/
theorem exists_settle_eq (transport : Transport) {rounds : Nat}
    {progress : Progress PackageFetch (Except FetchError FetchedPackage)}
    (standing : Standing name rounds progress) :
    ∃ fetched requests, settle transport (fun fetch reply => pure (fetch.resume reply)) rounds
      progress () = ⟨.done fetched, (), requests⟩ ∧
        ∀ package, fetched = .ok package → Fits name package := by
  induction rounds generalizing progress with
  | zero =>
      cases progress with
      | waiting url fetch =>
          obtain ⟨_, bound⟩ := standing
          cases fetch <;> exact absurd bound (Nat.not_succ_le_zero _)
      | done fetched =>
          refine ⟨fetched, [], rfl, ?_⟩
          rintro package rfl
          exact standing
  | succ rounds induction =>
      cases progress with
      | waiting url fetch =>
          obtain ⟨sound, bound⟩ := standing
          obtain ⟨fetched, requests, settled, fits⟩ :=
            induction (standing_resume sound bound (transport url))
          refine ⟨fetched, url :: requests, ?_, fits⟩
          exact congrArg (fun rest => { rest with requests := url :: rest.requests }) settled
      | done fetched =>
          refine ⟨fetched, [], rfl, ?_⟩
          rintro package rfl
          exact standing

variable (transport : Transport) (registry : PackageRegistry) (name : String)

/-- What fetching a package comes to. -/
def outcome : Except FetchError FetchedPackage :=
  match (run transport registry name).progress with
  | .done fetched => fetched
  | .waiting _ _ => .error (.invalidReference name)

/-- The requests that fetching a package makes. -/
def requests : List Url := (run transport registry name).requests

theorem run_eq : run transport registry name =
    ⟨.done (outcome transport registry name), (), requests transport registry name⟩ := by
  obtain ⟨fetched, requests_eq, settled, _⟩ :=
    exists_settle_eq transport (standing_start registry name)
  have run_eq : run transport registry name = ⟨.done fetched, (), requests_eq⟩ := settled
  rw [outcome, requests, run_eq]

theorem settles_start : SettlesAlone transport resume (start registry name)
    (outcome transport registry name) (requests transport registry name) :=
  Settles.iff_settle.mpr ⟨rounds, run_eq transport registry name⟩

theorem fits_of_outcome {package : FetchedPackage}
    (fetched : outcome transport registry name = .ok package) : Fits name package := by
  obtain ⟨fetched', requests_eq, settled, fits⟩ :=
    exists_settle_eq transport (standing_start registry name)
  have same := settled.symm.trans (run_eq transport registry name)
  simp only [Settled.mk.injEq, Progress.done.injEq] at same
  exact fits package (same.1.trans fetched)

/-! ## Answers of any kind -/

/-- The manifest gives the version and the place of the types. -/
def Declares (manifest : String) (version : Option String) (entry : String) : Prop :=
  ∃ declared given, PackageManifest.read manifest = .ok declared ∧ declared.version = version ∧
    declared.typesEntry? = some given ∧ Package.entryPath given = .ok entry

/-- What is known of a package comes from its manifest. -/
def Genuine : Progress PackageFetch (Except FetchError FetchedPackage) → Prop
  | .waiting _ (.manifest ..) => True
  | .waiting _ (.declarations descriptor version text _) =>
    Declares text version descriptor.entry
  | .done (.ok package) => Declares package.manifest package.version package.descriptor.entry
  | .done (.error _) => True

theorem genuine_start (registry : PackageRegistry) (name : String) :
    Genuine (start registry name) := by
  refine Progress.holds_ofAttempt (fun _ => trivial) fun progress success => ?_
  obtain ⟨_, _, success⟩ := exists_of_bind_eq_ok success
  obtain ⟨url, _, success⟩ := exists_of_bind_eq_ok success
  obtain rfl := Except.ok.inj success
  trivial

theorem genuine_resume (url : Url) (fetch : PackageFetch) (reply : Reply)
    (genuine : Genuine (.waiting url fetch)) : Genuine (fetch.resume reply) := by
  refine Progress.holds_ofAttempt (fun _ => trivial) fun progress success => ?_
  cases fetch with
  | manifest registry asked url =>
      obtain ⟨text, _, success⟩ := exists_of_bind_eq_ok success
      obtain ⟨declared, read, success⟩ := exists_of_bind_eq_ok success
      have read' : PackageManifest.read text = .ok declared := by
        cases read_eq : PackageManifest.read text with
        | error failure => exact nomatch (read_eq ▸ read)
        | ok manifest => simpa [read_eq, Except.mapError] using read
      cases entry_eq : declared.typesEntry? with
      | none =>
          rw [entry_eq] at success
          exact nomatch success
      | some given =>
          rw [entry_eq] at success
          obtain ⟨entry, accepted, success⟩ := exists_of_bind_eq_ok success
          obtain ⟨url, _, success⟩ := exists_of_bind_eq_ok success
          obtain rfl := Except.ok.inj success
          exact ⟨declared, given, read', rfl, entry_eq, accepted⟩
  | declarations descriptor version manifest url =>
      obtain ⟨text, _, success⟩ := exists_of_bind_eq_ok success
      obtain rfl := Except.ok.inj success
      exact genuine

/-- Some answers bring the package to whoever fetches the name from the registry. -/
def Brings (registry : PackageRegistry) (name : String) (package : FetchedPackage) : Prop :=
  ∃ replies, (start registry name).follow resume replies = .done (.ok package)

variable {registry name}

theorem Brings.fits {package : FetchedPackage} (brings : Brings registry name package) :
    Fits name package := by
  obtain ⟨replies, arrived⟩ := brings
  have standing := Progress.follow_induction
    (fun url fetch reply (⟨sound, bound⟩ : Standing name rounds (.waiting url fetch)) =>
      standing_resume sound (Nat.le_succ_of_le bound) reply)
    (standing_start registry name) replies
  rw [arrived] at standing
  exact standing

theorem Brings.declares {package : FetchedPackage} (brings : Brings registry name package) :
    Declares package.manifest package.version package.descriptor.entry := by
  obtain ⟨replies, arrived⟩ := brings
  have genuine := Progress.follow_induction genuine_resume (genuine_start registry name) replies
  rw [arrived] at genuine
  exact genuine

end PackageFetch
end Workbench
