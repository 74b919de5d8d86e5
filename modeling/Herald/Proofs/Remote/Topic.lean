import Herald.Config.Basic
import Herald.Proofs.Text.Trim

/-!
# Topics keep installations apart

A setting says what stands between its blanks, or nothing. An explicit topic is what
the topic setting says; without one the topic is the template around what the
identifier says. The template has text on both sides of its one placeholder, so its
ends are never blank, and the identifier can be read off the topic by taking that text
away, whatever the identifier is made of. What is put in is not searched again, so an
identifier may look like the placeholder.
-/

namespace Herald

/-- What a setting says; blanks say nothing. -/
inductive Says : Option String → Option String → Prop where
  | absent : Says none none
  | blank {s : String} (h : ∀ c ∈ s.toList, Text.isBlank c = true) : Says (some s) none
  | text {s core : String} (hne : core ≠ "") (hbare : Text.Bare core.toList)
      (h : Text.Padded core.toList s.toList) : Says (some s) (some core)

namespace Topic

variable {setting told : Option String}

theorem given?_eq_iff : given? setting = told ↔ Says setting told := by
  cases setting with
  | none =>
      constructor
      · rintro rfl
        exact .absent
      · rintro ⟨⟩
        rfl
  | some s =>
      rw [given?, Option.bind_some]
      split
      case isTrue hblank =>
        constructor
        · rintro rfl
          exact .blank (Text.isBlankText_iff.mp hblank)
        · rintro (_ | _ | ⟨hne, hbare, hpadded⟩)
          · rfl
          · rw [Text.isBlankText_iff_trim, Text.trim_eq_iff.mpr ⟨hpadded, hbare⟩] at hblank
            exact absurd hblank hne
      case isFalse hblank =>
        constructor
        · rintro rfl
          obtain ⟨hpadded, hbare⟩ := Text.trim_eq_iff.mp (rfl : Text.trim s = Text.trim s)
          exact .text (mt Text.isBlankText_iff_trim.mpr hblank) hbare hpadded
        · rintro (_ | h | ⟨-, hbare, hpadded⟩)
          · exact absurd (Text.isBlankText_iff.mpr h) hblank
          · rw [Text.trim_eq_iff.mpr ⟨hpadded, hbare⟩]

/-- Every setting says one thing. -/
theorem existsUnique_says (setting : Option String) : ∃! told, Says setting told :=
  ⟨given? setting, given?_eq_iff.mp rfl, fun _ h => (given?_eq_iff.mpr h).symm⟩

/-- What a setting says is something, and blank at neither end. -/
theorem bare_of_says {t : String} (h : Says setting (some t)) : t ≠ "" ∧ Text.Bare t.toList := by
  cases h with
  | text hne hbare _ => exact ⟨hne, hbare⟩

/-- The template around an identifier. -/
theorem substitute_template (uid : String) :
    Text.substitute template placeholder uid = "tidings/" ++ uid ++ "/log" := by
  rw [← String.toList_inj, Text.substitute, String.toList_ofList]
  simp [template, placeholder, Text.substituteFrom, Text.dropWord?]

end Topic

namespace RemoteSettings

variable {s s' : RemoteSettings}

theorem resolvedTopic_of_topic {t : String} (h : Says s.topic (some t)) : s.resolvedTopic = t := by
  rw [resolvedTopic, Topic.resolve, Topic.given?_eq_iff.mpr h, Option.getD_some]

theorem resolvedTopic_of_no_topic {u : Option String} (h : Says s.topic none) (hu : Says s.uid u) :
    s.resolvedTopic = "tidings/" ++ u.getD "unknown" ++ "/log" := by
  rw [resolvedTopic, Topic.resolve, Topic.given?_eq_iff.mpr h, Option.getD_none, Topic.ofUid,
    Topic.given?_eq_iff.mpr hu, Topic.substitute_template, Topic.unknownUid]

/-- A topic is something, and blank at neither end. -/
theorem resolvedTopic_bare (s : RemoteSettings) :
    s.resolvedTopic ≠ "" ∧ Text.Bare s.resolvedTopic.toList := by
  obtain ⟨t, ht, -⟩ := Topic.existsUnique_says s.topic
  obtain ⟨u, hu, -⟩ := Topic.existsUnique_says s.uid
  cases t with
  | some t =>
      rw [resolvedTopic_of_topic ht]
      exact Topic.bare_of_says ht
  | none =>
      rw [resolvedTopic_of_no_topic ht hu]
      refine ⟨by simp, ?_, ?_⟩
      · simp
        decide
      · rw [String.toList_append, List.getLast?_append]
        simp
        decide

/-- The identifier can be read off the topic. -/
theorem template_injective {u u' : String}
    (h : "tidings/" ++ u ++ "/log" = "tidings/" ++ u' ++ "/log") : u = u' := by
  rw [← String.toList_inj] at h ⊢
  simp only [String.toList_append] at h
  exact List.append_cancel_left (List.append_cancel_right h)

/--
**Topics are well formed and keep installations apart.**

Every setting says one thing: what stands between its blanks, or nothing. The topic of
remote settings is never empty and blank at neither end. It depends on nothing but what
their topic and their identifier say, and as an explicit topic it stands for itself,
whatever the identifier. Without an explicit topic the topics of two settings are the
same exactly if their identifiers say the same, no identifier being `unknown`.
-/
theorem topics_keep_apart :
    (∀ setting, ∃! told, Says setting told)
      ∧ (∀ s : RemoteSettings, s.resolvedTopic ≠ "" ∧ Text.Bare s.resolvedTopic.toList)
      ∧ (∀ (s s' : RemoteSettings) (t u : Option String), Says s.topic t → Says s'.topic t →
          Says s.uid u → Says s'.uid u → s.resolvedTopic = s'.resolvedTopic)
      ∧ (∀ s s' : RemoteSettings, s'.topic = some s.resolvedTopic →
          s'.resolvedTopic = s.resolvedTopic)
      ∧ ∀ (s s' : RemoteSettings) (u u' : Option String), Says s.topic none →
          Says s'.topic none → Says s.uid u → Says s'.uid u' →
          (s.resolvedTopic = s'.resolvedTopic ↔ u.getD "unknown" = u'.getD "unknown") := by
  refine ⟨Topic.existsUnique_says, resolvedTopic_bare, fun s s' t u ht ht' hu hu' => ?_,
    fun s s' h => ?_, fun s s' u u' ht ht' hu hu' => ?_⟩
  · cases t with
    | some t => rw [resolvedTopic_of_topic ht, resolvedTopic_of_topic ht']
    | none => rw [resolvedTopic_of_no_topic ht hu, resolvedTopic_of_no_topic ht' hu']
  · obtain ⟨hne, hbare⟩ := resolvedTopic_bare s
    refine resolvedTopic_of_topic ?_
    rw [h]
    exact .text hne hbare (.refl _)
  · rw [resolvedTopic_of_no_topic ht hu, resolvedTopic_of_no_topic ht' hu']
    exact ⟨template_injective, fun h => by rw [h]⟩

/-- An identifier that is the placeholder, with blanks around it. -/
def placeheld : RemoteSettings := { topic := some "\t ", uid := some " $UID\u2003" }

/-- An identifier that looks like the end of a topic with an identifier. -/
def slashed : RemoteSettings := { uid := some "$UID/log" }

theorem topics_keep_apart_lookalikes :
    placeheld.resolvedTopic ≠ slashed.resolvedTopic
      ∧ placeheld.resolvedTopic = { placeheld with topic := none, uid := some "$UID" }.resolvedTopic
      ∧ { slashed with topic := some placeheld.resolvedTopic }.resolvedTopic
        = placeheld.resolvedTopic := by
  obtain ⟨-, -, hsame, hself, hapart⟩ := topics_keep_apart
  have hblank : Says placeheld.topic none := .blank (by simp [Text.isBlank])
  have huid : Says placeheld.uid (some "$UID") :=
    .text (by decide) (by decide +kernel)
      ⟨[' '], ['\u2003'], rfl, by simp [Text.isBlank], by simp [Text.isBlank]⟩
  have hslashed : Says slashed.uid (some "$UID/log") :=
    .text (by decide) (by decide +kernel) (.refl _)
  refine ⟨?_, ?_, hself placeheld _ rfl⟩
  · rw [Ne, hapart placeheld slashed _ _ hblank .absent huid hslashed]
    decide
  · exact hsame placeheld _ none (some "$UID") hblank .absent huid
      (.text (by decide) (by decide +kernel) (.refl _))

end RemoteSettings

end Herald
