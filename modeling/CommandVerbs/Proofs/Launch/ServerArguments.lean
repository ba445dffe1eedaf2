import CommandVerbs.Proofs.Launch.Requests

/-! What a server is launched with. Its arguments are pairs of a keyword and a value behind the mode, and
can be read back as such whatever the values look like. A server is not launched where there is no
catalog or where the port of a debugger cannot be used, and both are settled before the launch. -/
namespace CommandVerbs

namespace Script

variable {α β σ : Type} {runner : Runner σ} {script : Script α} {s t : σ} {fault : Fault}

/-- Nothing comes after a script that fails. -/
theorem stopped_by_fault (quiet : script.launches runner s = [])
    (failed : script.run runner s = (.failed fault, t)) (next : α → Script β) :
    (script >>= next).launches runner s = [] ∧
      (script >>= next).run runner s = (.failed fault, t) := by
  rw [launches_bind, run_bind, failed, quiet]
  exact ⟨rfl, rfl⟩

/-- What comes after a script that changes nothing. -/
theorem run_after {value : α} (ran : script.run runner s = (.done value, s)) (next : α → Script β) :
    (script >>= next).run runner s = (next value).run runner s := by
  rw [run_bind, ran]

end Script

variable {κ ω : Type} (a : Adapters κ ω) (u : Session κ ω)

theorem Session.run_launch (request : LaunchRequest) :
    ((Script.launch request).run (runner a) u).1 =
      match (a.launch request u.world).1 with
      | .ok () => .done ()
      | .error fault => .failed (.process fault) := by
  change ((Script.ofExcept .process (a.launch request u.world).1).run (runner a)
    { u with world := (a.launch request u.world).2 }).1 = _
  rcases (a.launch request u.world).1 with fault | ⟨⟩ <;> rfl

namespace JavaLaunch

theorem debugPort_invalid {port : Int} (given : u.invocation.values.integer? "debugport" = some port)
    (invalid : ¬(0 ≤ port ∧ port ≤ 0xFFFF)) :
    debugPort.launches (Session.runner a) u = [] ∧ ∃ t,
      debugPort.run (Session.runner a) u =
        (.failed (.aborted s!"Invalid debug port: {port}" []), t) := by
  rw [debugPort, Session.launches_values, Session.run_values, given]
  simp only [if_neg invalid]
  exact ⟨rfl, _, rfl⟩

/-- The port of a debugger that cannot be used keeps the class from being launched. -/
theorem launch_invalid {port : Int} (given : u.invocation.values.integer? "debugport" = some port)
    (invalid : ¬(0 ≤ port ∧ port ≤ 0xFFFF)) (j : JavaLaunch) (v : Verb) (arguments : List String) :
    (j.launch v arguments).launches (Session.runner a) u = [] ∧ ∃ t,
      (j.launch v arguments).run (Session.runner a) u =
        (.failed (.aborted s!"Invalid debug port: {port}" []), t) := by
  obtain ⟨quiet, t, failed⟩ := debugPort_invalid a u given invalid
  obtain ⟨none, stopped⟩ := Script.stopped_by_fault quiet failed _
  exact ⟨none, t, stopped⟩

theorem validPort_or (values : Values) : ValidPort values ∨
    ∃ port, values.integer? "debugport" = some port ∧ ¬(0 ≤ port ∧ port ≤ 0xFFFF) := by
  cases given : values.integer? "debugport" with
  | none => exact .inl fun port known => by simp [given] at known
  | some port =>
    by_cases fits : 0 ≤ port ∧ port ≤ 0xFFFF
    · exact .inl fun other known => Option.some.inj (given.symm.trans known) ▸ fits
    · exact .inr ⟨port, rfl, fits⟩

theorem run_launch (valid : ValidPort u.invocation.values) (j : JavaLaunch) (v : Verb)
    (arguments : List String) :
    (j.launch v arguments).run (Session.runner a) u =
      (Script.launch (j.request v u.invocation.values arguments)).run (Session.runner a) u := by
  rw [launch, Script.run_after (debugPort_valid a u valid).2, Session.run_values]
  rfl

end JavaLaunch

namespace ServerLaunch

variable {catalog : String} {values : Values} {configured : Option String}

/-! ## Arguments -/

/-- The pairs of a keyword and a value that a list consists of; there are none if a value is missing. -/
def readPairs : List String → Option (List (String × String))
  | [] => some []
  | [_] => none
  | keyword :: value :: rest => (readPairs rest).map ((keyword, value) :: ·)

theorem readPairs_flatMap (pairs : List (String × String)) :
    readPairs (pairs.flatMap fun pair => [pair.1, pair.2]) = some pairs := by
  induction pairs with
  | nil => rfl
  | cons pair rest ih =>
    rw [List.flatMap_cons, List.cons_append, List.cons_append, List.nil_append, readPairs, ih,
      Option.map_some]

/-- The pair of a keyword and its value, if there is one. -/
def named (word : String) (value : Option String) : List (String × String) :=
  (value.map (word, ·)).toList

theorem keyword_eq (word : String) (value : Option String) :
    keyword word value = (named word value).flatMap fun pair => [pair.1, pair.2] := by
  cases value <;> rfl

theorem lookup_named (word other : String) (value : Option String) :
    (named word value).lookup other = if word = other then value else none := by
  cases value with
  | none => simp [named]
  | some value =>
    by_cases same : word = other
    · simp [named, same]
    · simp [named, same, beq_eq_false_iff_ne.mpr (Ne.symm same)]

/-- What a server is told, by keyword. -/
def pairs (catalog : String) (values : Values) : List (String × String) :=
  named "catalog" catalog ++ named "deployment" (values.text? "deployment") ++
    named "host" ((values.host? "host").map (·.host)) ++
    named "port" (((values.host? "host").bind (·.port)).map toString) ++
    named "license" (values.text? "license")

theorem arguments_eq (s : ServerLaunch) (catalog : String) (values : Values) :
    s.arguments catalog values = s.mode :: (pairs catalog values).flatMap fun pair => [pair.1, pair.2] := by
  simp only [arguments, pairs, keyword_eq, List.flatMap_append]
  rfl

/-- The pairs tell the server its catalog and what the command line says of the deployment, the license
and the first host, each under a keyword of its own, and nothing else. -/
structure Tells (pairs : List (String × String)) (catalog : String) (values : Values) : Prop where
  distinct : (pairs.map (·.1)).Nodup
  known : ∀ pair ∈ pairs, pair.1 ∈ ["catalog", "deployment", "host", "port", "license"]
  catalog : pairs.lookup "catalog" = some catalog
  deployment : pairs.lookup "deployment" = values.text? "deployment"
  host : pairs.lookup "host" = (values.host? "host").map (·.host)
  port : pairs.lookup "port" = ((values.host? "host").bind (·.port)).map toString
  license : pairs.lookup "license" = values.text? "license"

theorem map_fst_named (word : String) (value : Option String) :
    ((named word value).map (·.1)).Sublist [word] := by
  cases value with
  | none => exact List.nil_sublist _
  | some value => exact List.Sublist.refl _

theorem keywords_sublist (catalog : String) (values : Values) :
    ((pairs catalog values).map (·.1)).Sublist ["catalog", "deployment", "host", "port", "license"] := by
  simp only [pairs, List.map_append]
  exact ((((map_fst_named _ _).append (map_fst_named _ _)).append (map_fst_named _ _)).append
    (map_fst_named _ _)).append (map_fst_named _ _)

theorem pairs_tells (catalog : String) (values : Values) : Tells (pairs catalog values) catalog values where
  distinct := (keywords_sublist catalog values).nodup (by decide)
  known pair member := (keywords_sublist catalog values).subset (List.mem_map_of_mem member)
  catalog := by simp [pairs, List.lookup_append, lookup_named]
  deployment := by simp [pairs, List.lookup_append, lookup_named]
  host := by simp [pairs, List.lookup_append, lookup_named]
  port := by simp [pairs, List.lookup_append, lookup_named]
  license := by simp [pairs, List.lookup_append, lookup_named]

/-! ## Launching -/

/-- A text that is absent says as little as an empty one. -/
def Unnamed (text : Option String) : Prop :=
  ∀ given, text = some given → given = ""

/-- The catalog of a launch: the one on the command line, or else the configured one. -/
def Chosen (values : Values) (configured : Option String) (catalog : String) : Prop :=
  catalog ≠ "" ∧ (values.text? "catalog" = some catalog ∨
    Unnamed (values.text? "catalog") ∧ configured = some catalog)

/-- Why a server is not launched: nothing names a catalog, or else the port of a debugger does not fit
in 16 bits. -/
inductive Refusal (values : Values) (configured : Option String) : String → Prop where
  | noCatalog (given : Unnamed (values.text? "catalog")) (stored : Unnamed configured) :
      Refusal values configured "A catalog path is required."
  | invalidPort {catalog : String} {port : Int} (chosen : Chosen values configured catalog)
      (given : values.integer? "debugport" = some port) (invalid : ¬(0 ≤ port ∧ port ≤ 0xFFFF)) :
      Refusal values configured s!"Invalid debug port: {port}"

theorem unnamed_iff {text : Option String} : Unnamed text ↔ text.filter (· != "") = none := by
  cases text <;> simp [Unnamed]

theorem catalog?_eq_none : catalog? values configured = none ↔
    Unnamed (values.text? "catalog") ∧ Unnamed configured := by
  rw [catalog?, Option.or_eq_none_iff, unnamed_iff, unnamed_iff]

theorem catalog?_eq_some : catalog? values configured = some catalog ↔
    Chosen values configured catalog := by
  rw [catalog?, Option.or_eq_some_iff, Chosen, unnamed_iff]
  simp only [Option.filter_eq_some_iff, bne_iff_ne]
  grind

variable (s : ServerLaunch)

theorem catalog_unknown
    (unknown : catalog? u.invocation.values (a.getSetting s.catalogKey u.world) = none) :
    s.catalog.launches (Session.runner a) u = [] ∧ ∃ t,
      s.catalog.run (Session.runner a) u = (.failed (.aborted "A catalog path is required." []), t) := by
  obtain ⟨absent, configured⟩ := Option.or_eq_none_iff.mp unknown
  rw [ServerLaunch.catalog, Session.launches_values, Session.run_values, absent]
  simp only [Session.launches_getSetting, Session.run_getSetting, configured]
  exact ⟨rfl, _, rfl⟩

/-- Once the catalog is known, what is left is to launch the class. -/
theorem launch_known
    (known : catalog? u.invocation.values (a.getSetting s.catalogKey u.world) = some catalog) (v : Verb) :
    (s.launch v).launches (Session.runner a) u =
        (s.java.launch v (s.arguments catalog u.invocation.values)).launches (Session.runner a) u ∧
      (s.launch v).run (Session.runner a) u =
        (s.java.launch v (s.arguments catalog u.invocation.values)).run (Session.runner a) u := by
  obtain ⟨quiet, ran⟩ := catalog_known a u s known
  rw [launch, Script.launches_after quiet ran, Script.run_after ran, Session.launches_values,
    Session.run_values]
  exact ⟨rfl, rfl⟩

/-- A server launch aborts and asks for no launch, if nothing names a catalog or else the port of a
debugger does not fit in 16 bits; otherwise it asks for one launch and ends as this does. The arguments
of that launch are the mode and then pairs of a keyword and a value; no keyword is there twice, and the
pairs tell the catalog, and the deployment, the license and the first host with its port as far as the
command line has them. -/
theorem aborts_or_launches_once (v : Verb) :
    let outcome := ((s.launch v).run (Session.runner a) u).1
    let launches := (s.launch v).launches (Session.runner a) u
    let values := u.invocation.values
    let configured := a.getSetting s.catalogKey u.world
    (∃ message, Refusal values configured message ∧
      outcome = .failed (.aborted message []) ∧ launches = []) ∨
    (∀ message, ¬Refusal values configured message) ∧
      ∃ catalog request arguments pairs, Chosen values configured catalog ∧
        launches = [request] ∧ request.arguments = s.mode :: arguments ∧
        readPairs arguments = some pairs ∧ Tells pairs catalog values ∧
        outcome = match (a.launch request u.world).1 with
          | .ok () => .done ()
          | .error fault => .failed (.process fault) := by
  intro outcome launches values configured
  cases known : catalog? values configured with
  | none =>
    obtain ⟨given, stored⟩ := catalog?_eq_none.mp known
    obtain ⟨quiet, t, failed⟩ := catalog_unknown a u s known
    obtain ⟨none, stopped⟩ := Script.stopped_by_fault quiet failed
      fun catalog => (do s.java.launch v (s.arguments catalog (← Script.values)))
    exact .inl ⟨_, .noCatalog given stored, congrArg Prod.fst stopped, none⟩
  | some catalog =>
    have chosen := catalog?_eq_some.mp known
    obtain ⟨asked, ran⟩ := launch_known a u s known v
    rcases JavaLaunch.validPort_or values with valid | ⟨port, given, invalid⟩
    · right
      refine ⟨?_, catalog, _, _, _, chosen, launches_launch_known a u s known valid v,
        arguments_eq s catalog values, readPairs_flatMap _, pairs_tells catalog values, ?_⟩
      · rintro message (⟨given, stored⟩ | ⟨-, given, invalid⟩)
        · exact absurd (known.symm.trans (catalog?_eq_none.mpr ⟨given, stored⟩)) (by simp)
        · exact invalid (valid _ given)
      · rw [← Session.run_launch, ← JavaLaunch.run_launch a u valid, ← ran]
    · left
      obtain ⟨none, t, failed⟩ := JavaLaunch.launch_invalid a u given invalid s.java v
        (s.arguments catalog values)
      exact ⟨_, .invalidPort chosen given invalid, congrArg Prod.fst (ran.trans failed),
        asked.trans none⟩

end ServerLaunch

end CommandVerbs
