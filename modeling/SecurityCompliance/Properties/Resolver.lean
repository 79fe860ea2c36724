import SecurityCompliance.Dashboard.Metrics

/-!
# The literal shortcut of `check_artifact_exists`

`check_artifact_exists` globs a spec only when it holds `*` or `?`, and otherwise asks
`os.path.exists`.  `glob` treats a third character as magic, `[`, which opens a character
class.  On every spec without `[` the shortcut is sound: such a spec either holds `*` or `?`
and is globbed, or has no magic character at all, and then `glob` returns it exactly when
`os.path.exists` holds for it (`checkArtifactExists_iff_glob`).  A spec
whose only magic is a class, such as `conf[0-9].yaml`, is instead looked up literally and
found missing where `glob` matches (`checkArtifactExists_misses_bracket_class`); both copies
of the function, the report's and the dashboard's, do the same.
-/

namespace SecurityCompliance

/-- With `conf1.yaml` present, the spec `conf[0-9].yaml` is reported missing by both copies of
`check_artifact_exists`, while `glob` matches `conf1.yaml`. -/
theorem checkArtifactExists_misses_bracket_class :
    checkArtifactExists ⟨[⟨["conf1.yaml"], false⟩], by decide, by decide, by decide⟩
        "conf[0-9].yaml" = false ∧
      SecurityDashboard.checkArtifactExists ⟨[⟨["conf1.yaml"], false⟩], by decide, by decide,
        by decide⟩ "conf[0-9].yaml" = false ∧
      Snapshot.glob ⟨[⟨["conf1.yaml"], false⟩], by decide, by decide, by decide⟩
        "conf[0-9].yaml" = [["conf1.yaml"]] := by
  decide

end SecurityCompliance
