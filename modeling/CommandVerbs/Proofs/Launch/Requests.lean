import CommandVerbs.Bundle.Java
import CommandVerbs.Proofs.Session.Answers

/-! What a server launch asks for. It reads the command line and the configured catalog; once it
knows the catalog and the port of the debugger it asks for one launch, and for none otherwise. -/
namespace CommandVerbs

variable {κ ω : Type} (a : Adapters κ ω) (u : Session κ ω)

namespace JavaLaunch

/-- The port of a debugger can be used, if there is one. -/
def ValidPort (values : Values) : Prop :=
  ∀ port, values.integer? "debugport" = some port → 0 ≤ port ∧ port ≤ 0xFFFF

/-- The port of a debugger in a word of 16 bits. -/
def port? (values : Values) : Option UInt16 :=
  (values.integer? "debugport").map fun port => port.toNat.toUInt16

theorem debugPort_valid (valid : ValidPort u.invocation.values) :
    debugPort.launches (Session.runner a) u = [] ∧
      debugPort.run (Session.runner a) u = (.done (port? u.invocation.values), u) := by
  rw [debugPort, Session.launches_values, Session.run_values, port?]
  cases given : u.invocation.values.integer? "debugport" with
  | none => exact ⟨rfl, rfl⟩
  | some port =>
    simp only [if_pos (valid port given)]
    exact ⟨rfl, rfl⟩

/-- The request that a launch with the given arguments makes. -/
def request (j : JavaLaunch) (v : Verb) (values : Values) (arguments : List String) :
    LaunchRequest where
  target := j.target
  classpath := v.classpath
  options := v.attributes.launchOptions
  debugPort := port? values
  dryRun := values.flag "dryrun"
  arguments

theorem launches_launch (valid : ValidPort u.invocation.values) (j : JavaLaunch) (v : Verb)
    (arguments : List String) :
    (j.launch v arguments).launches (Session.runner a) u =
      [j.request v u.invocation.values arguments] := by
  obtain ⟨quiet, ran⟩ := debugPort_valid a u valid
  rw [launch, Script.launches_after quiet ran, Session.launches_values, Session.launches_launch]
  rfl

end JavaLaunch

namespace ServerLaunch

/-- The catalog of the command line, else the configured one. -/
def catalog? (values : Values) (configured : Option String) : Option String :=
  ((values.text? "catalog").filter (· != "")).or (configured.filter (· != ""))

variable (s : ServerLaunch)

theorem catalog_known {catalog : String}
    (known : catalog? u.invocation.values (a.getSetting s.catalogKey u.world) = some catalog) :
    s.catalog.launches (Session.runner a) u = [] ∧
      s.catalog.run (Session.runner a) u = (.done catalog, u) := by
  rw [ServerLaunch.catalog, Session.launches_values, Session.run_values]
  rcases Option.or_eq_some_iff.mp known with given | ⟨absent, configured⟩
  · rw [given]
    exact ⟨rfl, rfl⟩
  · rw [absent]
    simp only [Session.launches_getSetting, Session.run_getSetting, configured]
    exact ⟨rfl, rfl⟩

/-- With a catalog and a usable port, a server launch asks for one launch. -/
theorem launches_launch_known {catalog : String}
    (known : catalog? u.invocation.values (a.getSetting s.catalogKey u.world) = some catalog)
    (valid : JavaLaunch.ValidPort u.invocation.values) (v : Verb) :
    (s.launch v).launches (Session.runner a) u =
      [s.java.request v u.invocation.values (s.arguments catalog u.invocation.values)] := by
  obtain ⟨quiet, ran⟩ := catalog_known a u s known
  rw [launch, Script.launches_after quiet ran, Session.launches_values,
    JavaLaunch.launches_launch a u valid]

end ServerLaunch

end CommandVerbs
