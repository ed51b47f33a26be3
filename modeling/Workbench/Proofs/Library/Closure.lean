import Workbench.Proofs.FileSystem.View
import Workbench.Proofs.Library.Loading
import Workbench.Proofs.Text.Cutting

/-!
# What loading libraries brings

The files that options need are those they ask for and all that these refer to, directly or through
others. There is one order of them in which the files that a file refers to first come after it, one
file's references behind another's. A load goes through them in this order: it brings all of them, or
gives up at the first that is not to be had.
-/

namespace Workbench

theorem NameMap.get?_ofList_map {α : Type} (value : String → α) (names : List String)
    (name : String) : (ofList (names.map fun name => (name, value name))).get? name =
      if name ∈ names then some (value name) else none := by
  have folded : ∀ (names : List String) (map : NameMap α),
      ((names.map fun name => (name, value name)).foldl
          (fun map pair => map.insert pair.1 pair.2) map).get? name =
        if name ∈ names then some (value name) else map.get? name := by
    intro names
    induction names with
    | nil => simp
    | cons first names induction =>
        intro map
        rw [List.map_cons, List.foldl_cons, induction]
        by_cases same : name = first
        · subst same
          simp
        · simp [same, map.get?_insert_of_ne same]
  exact folded names .empty

/-! ## What is needed -/

theorem Reply.content_eq (reply : Reply) (url : Url) : reply.content url =
    match reply with
    | .error cause => .error cause
    | .ok response =>
      if 200 ≤ response.status ∧ response.status < 300 then .ok response.body
      else .error (.status url response.status) := by
  cases reply with
  | error cause => rfl
  | ok response =>
      by_cases success : 200 ≤ response.status ∧ response.status < 300
      · have accepted : response.accept url = .ok response := by
          simp [Response.accept, Response.isSuccess, success]
        rw [content]
        simp [bind, Except.bind, accepted, pure, Except.pure, success]
      · have rejected : response.accept url = .error (.status url response.status) := by
          rw [Response.accept, if_neg (by simpa [Response.isSuccess] using success)]
        rw [content]
        simp [bind, Except.bind, rejected, success]

namespace LibrarySite

/-- The text that the site serves under the name. -/
def document? (site : LibrarySite) (transport : Transport) (name : String) : Option String := do
  let url ← (site.url.join name).toOption
  let response ← (transport url).toOption
  if 200 ≤ response.status ∧ response.status < 300 then some response.body else none

/-- The files that the file of the name refers to, if there is one. -/
def refersTo (site : LibrarySite) (transport : Transport) (name : String) : List String :=
  match site.document? transport name with
  | some text => (Library.references text).map libraryFileName
  | none => []

/-- The name could lead out of a directory. -/
def LeadsOut (name : String) : Prop := '/' ∈ name.toList ∨ ['.', '.'] <:+: name.toList

instance (name : String) : Decidable (LeadsOut name) := by
  unfold LeadsOut
  infer_instance

/-- The URL that is requested for the name, if it can be part of one. -/
def request? (site : LibrarySite) (name : String) : Option Url :=
  if LeadsOut name then none else (site.url.join name).toOption

/-- Why the file of the name is not to be had. -/
def refusal? (site : LibrarySite) (transport : Transport) (name : String) : Option FetchError :=
  match site.request? name with
  | none => some (.invalidReference name)
  | some url =>
    match transport url with
    | .error cause => some cause
    | .ok response =>
      if 200 ≤ response.status ∧ response.status < 300 then none
      else some (.status url response.status)

variable {site : LibrarySite} {transport : Transport} {name : String} {url : Url}

theorem isFileName_iff : isFileName name = true ↔ ¬LeadsOut name := by
  rw [isFileName, Bool.and_eq_true, Bool.not_eq_true', Bool.not_eq_true', LeadsOut, not_or,
    ← Text.contains_iff]
  simp

theorem fileUrl_eq (site : LibrarySite) (name : String) : site.fileUrl name =
    match site.request? name with
    | none => .error (.invalidReference name)
    | some url => .ok url := by
  rw [fileUrl, request?]
  by_cases out : LeadsOut name
  · rw [if_neg (mt isFileName_iff.mp (not_not_intro out)), if_pos out]
  · rw [if_pos (isFileName_iff.mpr out), if_neg out]
    cases site.url.join name <;> rfl

theorem document?_of_request (requested : site.request? name = some url) :
    site.document? transport name = ((transport url).content url).toOption := by
  have joined : (site.url.join name).toOption = some url := by
    rw [request?] at requested
    split at requested
    · exact nomatch requested
    · exact requested
  rw [document?, joined, Reply.content_eq]
  simp only [Option.bind_eq_bind, Option.bind_some]
  cases transport url with
  | error cause => rfl
  | ok response =>
      simp only [Except.toOption, Option.bind_some]
      split <;> rfl

theorem refusal?_of_request (requested : site.request? name = some url) :
    site.refusal? transport name = match (transport url).content url with
      | .error cause => some cause
      | .ok _ => none := by
  rw [refusal?, requested, Reply.content_eq]
  dsimp only
  cases transport url with
  | error cause => rfl
  | ok response =>
      dsimp only
      split <;> rfl

end LibrarySite

/-- The options need the file of the name: they ask for it, or a file that they need refers to it. -/
inductive CompilerOptions.Needs (options : CompilerOptions) (transport : Transport)
    (site : LibrarySite) : String → Prop
  /-- They ask for it. -/
  | root {name : String} (asked : name ∈ options.rootLibraries) : Needs options transport site name
  /-- A file that they need refers to it. -/
  | reference {name other : String} (needed : Needs options transport site name)
      (refers : other ∈ site.refersTo transport name) : Needs options transport site other

/-- The order lists the needed files by their discovery: those that the options ask for, then what
the first of them refers to, what the second refers to, and so on, each name at its first place. -/
structure CompilerOptions.Discovers (options : CompilerOptions) (transport : Transport)
    (site : LibrarySite) (order : List String) : Prop where
  /-- The needed files are in it, and nothing else. -/
  mem_iff : ∀ name, name ∈ order ↔ options.Needs transport site name
  /-- They come as they are found. -/
  order_eq : order =
    (options.rootLibraries ++ order.flatMap (site.refersTo transport)).eraseDups

namespace LibraryLoad

variable {transport : Transport} {site : LibrarySite} {options : CompilerOptions}
  {bodies names done pending order rest : List String} {name : String}

/-! ## New names and first occurrences -/

theorem unknown_eq (known names : List String) :
    unknown known names = (names.removeAll known).eraseDups := by
  induction names generalizing known with
  | nil => simp [unknown, List.removeAll]
  | cons name names induction =>
      rw [unknown]
      by_cases old : name ∈ known
      · rw [if_pos old, induction]
        simp [List.removeAll, old]
      · have rest : names.removeAll (name :: known) =
            (names.removeAll known).filter fun other => !other == name := by
          simp only [List.removeAll, List.filter_filter]
          refine List.filter_congr fun other _ => ?_
          by_cases same : other = name <;> simp [same]
        rw [if_neg old, induction, rest]
        simp [List.removeAll, old, List.eraseDups_cons]

theorem unknown_nil (names : List String) : unknown [] names = names.eraseDups := by
  simp [unknown_eq, List.removeAll]

theorem nodup_eraseDups (names : List String) : names.eraseDups.Nodup :=
  unknown_nil names ▸ (unknown_spec [] names).1

theorem eraseDups_append (known names : List String) :
    (known ++ names).eraseDups = known.eraseDups ++ unknown known.eraseDups names := by
  rw [List.eraseDups_append, unknown_eq]
  simp [List.removeAll]

/-! ## The order of discovery -/

/-- Some needed files have been looked through, and the pending names are what they have brought up
besides. -/
structure Surveyed (options : CompilerOptions) (transport : Transport) (site : LibrarySite)
    (done pending : List String) : Prop where
  /-- All that is known was asked for or is referred to. -/
  known_eq : done ++ pending =
    (options.rootLibraries ++ done.flatMap (site.refersTo transport)).eraseDups
  /-- What has been looked through is needed. -/
  needed : ∀ name ∈ done, options.Needs transport site name

namespace Surveyed

theorem start (options : CompilerOptions) (transport : Transport) (site : LibrarySite) :
    Surveyed options transport site [] (unknown [] options.rootLibraries) :=
  ⟨by simp [unknown_nil], nofun⟩

theorem nodup (surveyed : Surveyed options transport site done pending) :
    (done ++ pending).Nodup :=
  surveyed.known_eq ▸ nodup_eraseDups _

theorem mem_iff (surveyed : Surveyed options transport site done pending) :
    name ∈ done ++ pending ↔
      name ∈ options.rootLibraries ∨ ∃ other ∈ done, name ∈ site.refersTo transport other := by
  rw [surveyed.known_eq, List.mem_eraseDups, List.mem_append, List.mem_flatMap]

theorem needs (surveyed : Surveyed options transport site done pending)
    (known : name ∈ done ++ pending) : options.Needs transport site name := by
  rcases surveyed.mem_iff.mp known with asked | ⟨other, looked, refers⟩
  · exact .root asked
  · exact .reference (surveyed.needed other looked) refers

theorem step (surveyed : Surveyed options transport site done (name :: pending)) :
    Surveyed options transport site (done ++ [name])
      (pending ++ unknown (done ++ name :: pending) (site.refersTo transport name)) where
  known_eq := by
    rw [List.flatMap_append, ← List.append_assoc options.rootLibraries, eraseDups_append,
      ← surveyed.known_eq]
    simp
  needed other looked := by
    rcases List.mem_append.mp looked with before | last
    · exact surveyed.needed other before
    · rw [List.mem_singleton.mp last]
      exact surveyed.needs (by simp)

/-- When nothing is pending, all that is needed has been looked through. -/
theorem discovers (surveyed : Surveyed options transport site done []) :
    options.Discovers transport site done where
  mem_iff name := by
    refine ⟨surveyed.needed name, fun needed => ?_⟩
    have all_known : name ∈ done ++ [] := by
      induction needed with
      | root asked => exact surveyed.mem_iff.mpr (.inl asked)
      | reference needed refers induction =>
          exact surveyed.mem_iff.mpr (.inr ⟨_, by simpa using induction, refers⟩)
    simpa using all_known
  order_eq := by simpa using surveyed.known_eq

/-- In an order of discovery the pending names come right behind those that have been looked
through, and there are some as long as the order goes on. -/
theorem pending_prefix (surveyed : Surveyed options transport site done pending)
    (discovers : options.Discovers transport site order) (split : order = done ++ rest) :
    pending <+: rest ∧ (pending = [] → rest = []) := by
  constructor
  · have longer : done ++ pending <+: order := by
      rw [discovers.order_eq, split, List.flatMap_append, ← List.append_assoc, eraseDups_append,
        ← surveyed.known_eq]
      exact List.prefix_append _ _
    rw [split] at longer
    exact (List.prefix_append_right_inj done).mp longer
  · rintro rfl
    have once : order.Nodup := discovers.order_eq ▸ nodup_eraseDups _
    rw [split, List.nodup_append] at once
    cases rest with
    | nil => rfl
    | cons name rest =>
        have member : name ∈ order := by simp [split]
        have looked := (surveyed.discovers.mem_iff name).mpr ((discovers.mem_iff name).mp member)
        exact absurd rfl (once.2.2 name looked name List.mem_cons_self)

end Surveyed

theorem mem_of_needs
    (finite : ∀ url response, transport url = .ok response → response.body ∈ bodies)
    (needed : options.Needs transport site name) : name ∈ options.rootLibraries ++
      bodies.flatMap fun body => (Library.references body).map libraryFileName := by
  cases needed with
  | root asked => exact List.mem_append_left _ asked
  | @reference other _ needed refers =>
      rw [LibrarySite.refersTo] at refers
      split at refers
      next text document =>
        obtain ⟨url, _, found⟩ := Option.bind_eq_some_iff.mp document
        obtain ⟨response, answered, success⟩ := Option.bind_eq_some_iff.mp found
        split at success
        next =>
          obtain rfl := Option.some.inj success
          have served : transport url = .ok response := by
            cases reply : transport url <;> simp_all [Except.toOption]
          exact List.mem_append_right _
            (List.mem_flatMap.mpr ⟨response.body, finite url response served, refers⟩)
        next => exact nomatch success
      next => exact nomatch refers

theorem exists_discovers (finite : ∀ name, options.Needs transport site name → name ∈ names)
    {left : Nat} (surveyed : Surveyed options transport site done pending)
    (bound : names.length ≤ done.length + left) :
    ∃ order, options.Discovers transport site order := by
  induction left generalizing done pending with
  | zero =>
      cases pending with
      | nil => exact ⟨done, surveyed.discovers⟩
      | cons name pending =>
          have within : done ++ name :: pending ⊆ names := fun other known =>
            finite other (surveyed.needs known)
          have fewer := (List.subperm_of_subset surveyed.nodup within).length_le
          simp only [List.length_append, List.length_cons] at fewer
          omega
  | succ left induction =>
      cases pending with
      | nil => exact ⟨done, surveyed.discovers⟩
      | cons name pending =>
          refine induction surveyed.step ?_
          simp only [List.length_append, List.length_singleton]
          omega

/-! ## The load -/

/-- A file with its name. -/
def fileOf (transport : Transport) (site : LibrarySite) (name : String) : String × String :=
  (name, (site.document? transport name).getD "")

theorem names_of_files (transport : Transport) (site : LibrarySite) (names : List String) :
    (names.map (fileOf transport site)).map (·.1) = names := by
  simp [fileOf, Function.comp_def]

/-- The file of a name that is not refused is requested, and the load goes on with what it refers
to. -/
theorem request_of_served (served : site.refusal? transport name = none) (done pending : List String) :
    ∃ url, site.request? name = some url ∧ (site.document? transport name).isSome = true ∧
      ∀ result requests, SettlesAlone transport resume
          (request site ((done ++ [name]).map (fileOf transport site))
            (pending ++ unknown (done ++ name :: pending) (site.refersTo transport name)))
          result requests →
        SettlesAlone transport resume
          (request site (done.map (fileOf transport site)) (name :: pending)) result
          (url :: requests) := by
  cases requested : site.request? name with
  | none =>
      rw [LibrarySite.refusal?, requested] at served
      exact nomatch served
  | some url =>
      rw [LibrarySite.refusal?_of_request requested] at served
      cases content : (transport url).content url with
      | error cause =>
          rw [content] at served
          exact nomatch served
      | ok text =>
          have document : site.document? transport name = some text := by
            rw [LibrarySite.document?_of_request requested, content, Except.toOption]
          have file_eq : fileOf transport site name = (name, text) := by
            rw [fileOf, document, Option.getD_some]
          have refers_eq : site.refersTo transport name =
              (Library.references text).map libraryFileName := by
            rw [LibrarySite.refersTo, document]
          refine ⟨url, rfl, by simp [document], fun result requests settles => ?_⟩
          rw [request_of_accepted (by rw [site.fileUrl_eq, requested])]
          refine .waiting ?_ settles
          rw [resume_of_content content, known, names_of_files, List.map_append, List.map_singleton,
            file_eq, refers_eq]
          rfl

theorem settles_of_refused {cause : FetchError}
    (refused : site.refusal? transport name = some cause) (loaded : List (String × String))
    (pending : List String) : SettlesAlone transport resume (request site loaded (name :: pending))
      (.error cause) (site.request? name).toList := by
  cases requested : site.request? name with
  | none =>
      rw [LibrarySite.refusal?, requested] at refused
      obtain rfl := Option.some.inj refused
      rw [request_of_refused (by rw [site.fileUrl_eq, requested])]
      exact .done _ _
  | some url =>
      rw [LibrarySite.refusal?_of_request requested] at refused
      cases content : (transport url).content url with
      | ok text =>
          rw [content] at refused
          exact nomatch refused
      | error failure =>
          rw [content] at refused
          obtain rfl := Option.some.inj refused
          rw [request_of_accepted (by rw [site.fileUrl_eq, requested])]
          refine .waiting ?_ (.done _ ())
          rw [resume_of_failed content]
          rfl

/-- A load gets through a stretch of the order in which nothing is refused. -/
theorem settles_through (discovers : options.Discovers transport site order)
    (stretch rest : List String)
    (served : ∀ name ∈ stretch, site.refusal? transport name = none)
    (surveyed : Surveyed options transport site done pending)
    (split : order = done ++ stretch ++ rest) :
    ∃ pending' urls, Surveyed options transport site (done ++ stretch) pending' ∧
      urls.map some = stretch.map site.request? ∧
      ∀ result requests, SettlesAlone transport resume
          (request site ((done ++ stretch).map (fileOf transport site)) pending') result requests →
        SettlesAlone transport resume (request site (done.map (fileOf transport site)) pending)
          result (urls ++ requests) := by
  induction stretch generalizing done pending with
  | nil => exact ⟨pending, [], by simpa using surveyed, rfl, by simp⟩
  | cons name stretch induction =>
      obtain ⟨prefixed, goes_on⟩ := surveyed.pending_prefix discovers
        (by simpa using split : order = done ++ (name :: stretch ++ rest))
      obtain ⟨first, more, rfl⟩ : ∃ first more, pending = first :: more :=
        List.exists_cons_of_ne_nil fun nothing => nomatch goes_on nothing
      obtain rfl : first = name := (List.cons_prefix_cons.mp prefixed).1
      obtain ⟨url, requested, _, onward⟩ :=
        request_of_served (served first List.mem_cons_self) done more
      obtain ⟨pending', urls, surveyed', urls_eq, onward'⟩ := induction
        (fun other member => served other (List.mem_cons_of_mem first member)) surveyed.step
        (by simpa using split)
      rw [List.append_assoc, List.singleton_append] at surveyed' onward'
      refine ⟨pending', url :: urls, surveyed', by simp [requested, urls_eq], ?_⟩
      exact fun result requests settles => onward _ _ (onward' result requests settles)

/-- The load of the options ends with the result after the requests. -/
def Ends (transport : Transport) (site : LibrarySite) (options : CompilerOptions)
    (result : Except FetchError LibraryFiles) (requests : List Url) : Prop :=
  ∃ rounds, settle transport (fun load reply => pure (load.resume reply)) rounds
    (start site options) () = ⟨.done result, (), requests⟩

theorem ends_iff {result : Except FetchError LibraryFiles} {requests : List Url} :
    Ends transport site options result requests ↔
      SettlesAlone transport resume (start site options) result requests :=
  Settles.iff_settle.symm

/-- With finitely many documents a load ends, whatever refers to what. Where every needed file is to
be had, it brings exactly these, each with its text and after a single request. Otherwise it gives
up at the first in the order of discovery that is not to be had, after a single request for each
file before, and one for that file unless its name cannot be part of a URL. -/
theorem ends_with_needed (transport : Transport) (site : LibrarySite) (options : CompilerOptions)
    (bodies : List String)
    (finite : ∀ url response, transport url = .ok response → response.body ∈ bodies) :
    (∃ order, options.Discovers transport site order) ∧
    ∀ order, options.Discovers transport site order →
      ((∀ name, options.Needs transport site name → site.refusal? transport name = none) →
        ∃ libraries requests, Ends transport site options (.ok libraries) requests ∧
          (∀ name, name ∈ libraries.names ↔ options.Needs transport site name) ∧
          (∀ name, options.Needs transport site name → ∃ text,
            site.document? transport name = some text ∧ libraries.get? name = some text) ∧
          requests.map some = order.map site.request?) ∧
      ∀ before name after cause, order = before ++ name :: after →
        (∀ earlier ∈ before, site.refusal? transport earlier = none) →
        site.refusal? transport name = some cause →
        ∃ requests, Ends transport site options (.error cause) requests ∧
          requests.map some =
            before.map site.request? ++ (site.request? name).toList.map some := by
  have begun := Surveyed.start options transport site
  refine ⟨exists_discovers (fun name => mem_of_needs finite) begun (Nat.le_add_left _ _), ?_⟩
  intro order discovers
  constructor
  · intro served
    have served_order : ∀ name ∈ order, site.refusal? transport name = none :=
      fun name member => served name ((discovers.mem_iff name).mp member)
    obtain ⟨pending, urls, surveyed, urls_eq, onward⟩ :=
      settles_through discovers order [] served_order begun (by simp)
    obtain rfl : pending = [] :=
      List.prefix_nil.mp (surveyed.pending_prefix discovers (by simp)).1
    have settles := onward _ _ (.done _ ())
    have found : ∀ name, options.Needs transport site name → ∃ text,
        site.document? transport name = some text ∧
          (NameMap.ofList (order.map (fileOf transport site))).get? name = some text := by
      intro name needed
      obtain ⟨_, _, present, _⟩ := request_of_served (served name needed) [] []
      obtain ⟨text, document⟩ := Option.isSome_iff_exists.mp present
      have member := (discovers.mem_iff name).mpr needed
      have value := NameMap.get?_ofList_map
        (fun name => (site.document? transport name).getD "") order name
      rw [if_pos member, document] at value
      exact ⟨text, document, value⟩
    refine ⟨_, urls ++ [], ends_iff.mpr settles, fun name => ?_, found, by simpa using urls_eq⟩
    rw [NameMap.names, Entries.mem_names_iff]
    constructor
    · intro present
      by_contra needless
      have value := NameMap.get?_ofList_map
        (fun name => (site.document? transport name).getD "") order name
      rw [if_neg (mt (discovers.mem_iff name).mp needless)] at value
      exact present value
    · intro needed
      obtain ⟨text, _, value⟩ := found name needed
      exact fun absent => nomatch value.symm.trans absent
  · intro before name after cause split served refused
    obtain ⟨pending, urls, surveyed, urls_eq, onward⟩ :=
      settles_through discovers before (name :: after) served begun (by simpa using split)
    obtain ⟨prefixed, goes_on⟩ := surveyed.pending_prefix discovers (by simpa using split)
    obtain ⟨first, more, rfl⟩ : ∃ first more, pending = first :: more :=
      List.exists_cons_of_ne_nil fun nothing => nomatch goes_on nothing
    obtain rfl : first = name := (List.cons_prefix_cons.mp prefixed).1
    have settles := onward _ _ (settles_of_refused refused _ more)
    exact ⟨_, ends_iff.mpr settles, by simp [urls_eq]⟩

end LibraryLoad

theorem CannedResponses.body_mem_of_transport {responses : CannedResponses} {url : Url}
    {response : Response} (served : responses.transport url = .ok response) :
    response.body ∈ responses.entries.map fun entry => entry.2.body := by
  rw [transport] at served
  split at served
  next stored found =>
    obtain rfl := Except.ok.inj served
    exact List.mem_map.mpr ⟨_, Entries.mem_of_find? found, rfl⟩
  next => exact nomatch served

namespace Sample

/-- Two library files that refer to each other and to themselves. -/
def circle : CannedResponses :=
  NameMap.ofList [
    ("https://libs.test/lib/lib.a.d.ts",
      ⟨200, "/// <reference lib=\"B\" />\n/// <reference lib=\"a\" />\n"⟩),
    ("https://libs.test/lib/lib.b.d.ts", ⟨203, "/// <reference lib='a' />\r\n"⟩)]

/-- Where the files of the circle are. -/
def circleSite : LibrarySite :=
  ⟨⟨"https", some { host := .domain "libs.test" }, .segments ["lib", ""], none, none⟩⟩

/-- Options that ask for one file of the circle, twice. -/
def circleOptions : CompilerOptions := { lib := ["a", "A"] }

theorem surveyed_circle : LibraryLoad.Surveyed circleOptions circle.transport circleSite
    ["lib.a.d.ts", "lib.b.d.ts"] [] := by
  have first : circleOptions.Needs circle.transport circleSite "lib.a.d.ts" :=
    .root (by decide +kernel)
  refine ⟨by decide +kernel, fun name member => ?_⟩
  simp only [List.mem_cons, List.not_mem_nil, or_false] at member
  rcases member with rfl | rfl
  · exact first
  · exact .reference first (by decide +kernel)

theorem ends_with_needed_circle : ∃ libraries requests,
    LibraryLoad.Ends circle.transport circleSite circleOptions (.ok libraries) requests ∧
      (∀ name, name ∈ libraries.names ↔ name ∈ ["lib.a.d.ts", "lib.b.d.ts"]) ∧
      requests.length = 2 := by
  have discovers := surveyed_circle.discovers
  have served : ∀ name, circleOptions.Needs circle.transport circleSite name →
      circleSite.refusal? circle.transport name = none := by
    have each : ∀ name ∈ ["lib.a.d.ts", "lib.b.d.ts"],
        circleSite.refusal? circle.transport name = none := by
      decide +kernel
    exact fun name needed => each name ((discovers.mem_iff name).mpr needed)
  obtain ⟨libraries, requests, ends, names, _, requests_eq⟩ :=
    ((LibraryLoad.ends_with_needed circle.transport circleSite circleOptions _
      fun url response => CannedResponses.body_mem_of_transport).2 _ discovers).1 served
  refine ⟨libraries, requests, ends, fun name => ?_, ?_⟩
  · rw [names, discovers.mem_iff]
  · simpa using congrArg List.length requests_eq

end Sample
end Workbench
