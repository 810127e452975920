import Slipway.CommandLine
import Slipway.Proofs.Deploy.Order
import Slipway.Proofs.Dict.Entries
import Slipway.Proofs.Text.Stripping

/-
  The ids that commands derive. A request is deployed or launched under an id that is derived from
  its properties, and a command that names an application derives the id from the name and the group
  alone. Both come to the same id (`appId_of_request`): only what is left of a group without its
  blanks counts (`AppId.ofParts_congr`), and this is what the property holds (`Request.group_bind`).
-/

namespace Slipway

/-- Of a group that is blank nothing is left. -/
theorem AppId.ofParts_congr {name : String} {g g' : Option String}
    (h : g.bind Text.nonBlank? = g'.bind Text.nonBlank?) : ofParts name g = ofParts name g' := by
  rw [ofParts, ofParts, h]

/-- The blanks around a group are stripped twice, which is the same as once. -/
theorem Request.group_bind (r : Request) :
    r.group.bind Text.nonBlank? = (r.properties.get? Keys.group).bind Text.nonBlank? := by
  unfold group nonEmptyProperty property
  cases r.properties.get? Keys.group with
  | none => rfl
  | some g =>
    by_cases hblank : Text.trim g = ""
    · simp [Text.nonBlank?, hblank]
    · simp [Text.nonBlank?, Option.filter, hblank, Text.trim_trim]

namespace CommandLine

variable {f : RequestForm} {r : Request}

/-- The group that the request of a form ends up with: that of its own option, or else that of the
    last property for it. -/
def RequestForm.finalGroup (f : RequestForm) : Option String :=
  f.group.or ((f.properties.filter fun e => e.1 = Keys.group).getLast?.map Prod.snd)

theorem RequestForm.request_eq_ok_iff : f.request = .ok r ↔
    ∃ a, ArtifactRef.parse f.artifact = .ok a ∧ r = {
      name := f.name
      artifact := a
      properties := match f.group with
        | some g => (Dict.ofList f.properties).insert Keys.group g
        | none => Dict.ofList f.properties
      args := f.args } := by
  unfold RequestForm.request
  rw [Result.bind_eq_ok]
  refine exists_congr fun a => and_congr_right fun _ => ?_
  exact ⟨fun h => (Except.ok.inj h).symm, fun h => congrArg Except.ok h.symm⟩

theorem RequestForm.get?_group (h : f.request = .ok r) :
    r.properties.get? Keys.group = f.finalGroup := by
  obtain ⟨a, -, rfl⟩ := request_eq_ok_iff.1 h
  unfold RequestForm.finalGroup
  cases f.group with
  | some g => exact Dict.get?_insert_self _ _ _
  | none => exact Dict.get?_ofList_eq_getLast? _ _

/-- A form has a request exactly if its artifact can be read. Whatever is deployed or launched for
    it has the id that a command derives from the name and the group that the request ends up
    with. -/
theorem appId_of_request (f : RequestForm) :
    ((∃ r, f.request = .ok r) ↔ ∃ a, ArtifactRef.parse f.artifact = .ok a) ∧
    ∀ r, f.request = .ok r →
      r.properties.get? Keys.group = f.finalGroup ∧
      r.appId = NameForm.appId { name := f.name, group := f.finalGroup } ∧
      (∀ c o, DeployOrder.ofRequest c r = .ok o →
        o.fanOut.id = NameForm.appId { name := f.name, group := f.finalGroup }) ∧
      ∀ c o, TaskOrder.ofRequest c r = .ok o →
        o.id = NameForm.appId { name := f.name, group := f.finalGroup } := by
  refine ⟨⟨fun ⟨r, h⟩ => ?_, fun ⟨a, h⟩ => ⟨_, RequestForm.request_eq_ok_iff.2 ⟨a, h, rfl⟩⟩⟩,
    fun r h => ?_⟩
  · obtain ⟨a, ha, -⟩ := RequestForm.request_eq_ok_iff.1 h
    exact ⟨a, ha⟩
  · have hgroup := RequestForm.get?_group h
    have hname : r.name = f.name := by
      obtain ⟨a, -, rfl⟩ := RequestForm.request_eq_ok_iff.1 h
      rfl
    have hid : r.appId = NameForm.appId { name := f.name, group := f.finalGroup } := by
      rw [Request.appId, NameForm.appId, hname]
      exact AppId.ofParts_congr (r.group_bind.trans (by rw [hgroup]))
    refine ⟨hgroup, hid, fun c o ho => ?_, fun c o ho => ?_⟩
    · rw [(DeployOrder.ofRequest_eq_ok ho).id, hid]
    · rw [(TaskOrder.ofRequest_eq_ok ho).1, hid]

/-- A group that is given with blanks around it, and a blank one, both in place of one that a
    property says. -/
theorem appId_of_request_padded :
    ∃ r r', RequestForm.request ⟨"Ticker_App", some " Stream1 ", "t.jar", [(Keys.group, "x")], []⟩ =
        .ok r ∧
      RequestForm.request ⟨"Ticker_App", some " ", "t.jar", [(Keys.group, "x")], []⟩ = .ok r' ∧
      r.appId = NameForm.appId ⟨"Ticker_App", some " Stream1 "⟩ ∧
      r'.appId = NameForm.appId ⟨"Ticker_App", some " "⟩ ∧
      r.appId.text = "stream1-ticker-app" ∧ r'.appId.text = "ticker-app" := by
  have hfile : ∃ a, ArtifactRef.parse "t.jar" = .ok a := ⟨.file "t.jar", by decide +kernel⟩
  obtain ⟨r, hr⟩ := (appId_of_request
    ⟨"Ticker_App", some " Stream1 ", "t.jar", [(Keys.group, "x")], []⟩).1.2 hfile
  obtain ⟨r', hr'⟩ := (appId_of_request
    ⟨"Ticker_App", some " ", "t.jar", [(Keys.group, "x")], []⟩).1.2 hfile
  have hid := ((appId_of_request _).2 r hr).2.1
  have hid' := ((appId_of_request _).2 r' hr').2.1
  exact ⟨r, r', hr, hr', hid, hid', by rw [hid]; decide +kernel, by rw [hid']; decide +kernel⟩

end CommandLine

end Slipway
