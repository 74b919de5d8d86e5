import Herald.Proofs.Config.Sources
import Herald.Proofs.Manager.Building

/-!
# From settings to a manager

What an environment and a command line say makes one configuration, which is accepted
or refused, and from an accepted one a manager is built or not. The three agree on what
a valid configuration is, and the first fault that one of them finds is the first fault
of the next.
-/

namespace Herald.Manager

/--
**The sources of a configuration, its validation and the building of a manager agree.**

In every process, one configuration follows an environment and a command line; to give
the value of a setting or to turn a switch on changes just that in it. It is accepted
exactly if it is valid in the registry of the process, and refused for its first fault
otherwise.

A plan is refused for its first fault, which is that of its configuration if it has one;
that there is no transport is reported for a valid configuration only. A manager is
built exactly if the configuration is valid and, with shipping on, there is a transport
and room for the queue. It has the configured level of the root, and a remote sink
exactly if shipping is on.
-/
theorem built_iff_valid (process : ProcessLevels) :
    (∀ env o, ∃! c : Config, c.Follows env o)
      ∧ (∀ env o (c : Config), c.Follows env o →
          (∀ v s, (c.withText v s).Follows env (o.setValue v s))
            ∧ (∀ w, (c.withOn w).Follows env (o.turnOn w))
            ∧ (∀ c', o.config process.install.1 env = .ok c'
                ↔ c' = c ∧ ∃ root, c.Valid process.install.1 root)
            ∧ ∀ e, o.config process.install.1 env = .error e
                ↔ c.FirstFault process.install.1 e)
      ∧ ∀ p : Plan,
          (∀ e, (buildIn process p).1 = .error e ↔ p.FirstFault process.install.1 e)
            ∧ ((∃ t, (buildIn process p).1 = .ok t)
                ↔ (∃ root, p.config.validate process.install.1 = .ok root)
                  ∧ (p.config.remote.enabled = true → p.hasTransport = true ∧ p.HasRoom))
            ∧ (∀ e, p.config.validate process.install.1 = .error e →
                (buildIn process p).1 = .error e)
            ∧ ((buildIn process p).1 = .error .missingTransport
                ↔ (∃ root, p.config.validate process.install.1 = .ok root)
                  ∧ p.config.remote.enabled = true ∧ p.hasTransport = false)
            ∧ ∀ m events, (buildIn process p).1 = .ok (m, events) →
                Level.parse process.install.1 p.config.rootLevel = .ok m.rootLevel
                  ∧ m.remote.isSome = p.config.remote.enabled := by
  refine ⟨Config.existsUnique_follows, fun env o c h => ?_, fun p => ?_⟩
  · exact ⟨h.setValue, h.turnOn, Options.config_iff h⟩
  · obtain ⟨hok, herror⟩ := build_iff process.install.1 p
    obtain ⟨hvalid, hfault⟩ := p.config.validate_iff process.install.1
    simp only [fst_buildIn, hvalid]
    refine ⟨herror, exists_build_iff, fun e he => ?_, build_eq_missingTransport_iff,
      fun m events hm => ?_⟩
    · exact (herror e).mpr (.config ((hfault e).mp he))
    · obtain ⟨root, hready, hbuilt⟩ := (hok _).mp hm
      obtain ⟨rfl, -⟩ := Prod.mk.inj hbuilt
      exact ⟨hready.valid.parsed, p.isSome_sink?⟩

/-- Blanks, a size with a sign and a zero, a word that is no token, and one that is. -/
def mixedEnvironment : Environment :=
  Table.get? [("TIDINGS_LOG_LEVEL", "debug"), ("TIDINGS_TRACING_FILTER", "\t"),
    ("TIDINGS_REMOTE_QUEUE", " +04611686018427387904"), ("TIDINGS_UID", "hall"),
    ("TIDINGS_REMOTE_LOGGING", "TRUE"), ("TIDINGS_JSON_LOGS", "sudo")]

/-- Another level, a blank identifier, and shipping. -/
def mixedOptions : Options := { logLevel := some "Notify ", uid := some "", remote := true }

/-- What they amount to; there is no room for this queue. -/
def mixedConfig : Config :=
  { rootLevel := "Notify "
    remote := { enabled := true, uid := some "", queueCapacity := 4611686018427387904 }
    console := { filter := "info", json := true } }

/-- A plan for it, without a transport. -/
def mixedPlan : Plan where
  config := mixedConfig
  testMode := .forced false
  clock := { seconds := 1, civil := "2024-01-01 12:00:00", precise := "2024-01-01 12:00:00,000" }

/-- The configuration is accepted, a transport is missed, and with one the building breaks off. -/
theorem built_iff_valid_mixed :
    mixedConfig.Follows mixedEnvironment mixedOptions
      ∧ mixedOptions.config Registry.defaults mixedEnvironment = .ok mixedConfig
      ∧ (buildIn {} mixedPlan).1 = .error .missingTransport
      ∧ (buildIn {} { mixedPlan with hasTransport := true }).1
          = .error (.breakdown (.capacity .uncountable)) := by
  obtain ⟨-, hsources, hplans⟩ := built_iff_valid {}
  have hfollows : mixedConfig.Follows mixedEnvironment mixedOptions :=
    Config.follows_iff.mpr (by decide +kernel)
  have hvalid : mixedConfig.Valid Registry.defaults Level.notify :=
    ⟨by decide +kernel, by decide, 'i', by decide, by decide⟩
  obtain ⟨-, -, haccepted, -⟩ := hsources _ _ _ hfollows
  refine ⟨hfollows, (haccepted mixedConfig).mpr ⟨rfl, _, hvalid⟩, ?_, ?_⟩
  · exact ((hplans mixedPlan).1 _).mpr (.transport hvalid rfl rfl)
  · exact ((hplans _).1 _).mpr (.uncountable hvalid rfl rfl (by decide))

end Herald.Manager
