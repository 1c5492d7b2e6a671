/-
# Exchange form of settings
-/
import Payables.Wire.Guardrail
import Payables.Settings.Basic

namespace Payables.Wire

/-- Read the settings of matching. -/
def matching? (j : Json) : Option MatchingSettings := do
  let j ← record? [] ["autopilot_threshold", "po_candidate_limit"] j
  let usual : MatchingSettings := {}
  some
    { threshold :=
        ← fieldOr? j "autopilot_threshold" usual.threshold fun v =>
            (int64? v).bind Threshold.ofInt?
      candidateLimit := ← fieldOr? j "po_candidate_limit" usual.candidateLimit count? }

/-- Write settings by section. -/
def settings (s : Settings) : Json :=
  .object
    [ ("server", .object [("host", .text s.host), ("port", count s.port)]),
      ("database", .object [("url", .text s.databaseUrl)]),
      ("matching", .object
        [ ("autopilot_threshold", byte s.matching.threshold.toUInt8),
          ("po_candidate_limit", count s.matching.candidateLimit) ]),
      ("guardrails", limits s.limits),
      ("export", .object [("dir", optional .text s.exportDir)]) ]

end Payables.Wire
