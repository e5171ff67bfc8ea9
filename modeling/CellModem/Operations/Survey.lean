import CellModem.CommandSet
import CellModem.Host.Operation

/-!
# Surveying a band

The modem has to leave the network for a survey, and goes back to it whatever came of the survey.
-/

namespace CellModem.Operation

variable {υ : Type}

def survey (band : String) : Operation υ .survey (List String) where
  plan _ driver := do
    let range ← surveyRange band
    let (leave, prepare, scan, goBack) ← (driver.ask (.setRegistration .deregistered)).both
      ((driver.ask .prepareSurvey).both
        ((driver.ask (.scan range)).both (driver.ask (.setRegistration .automatic))))
    return do
      let cells ← Step.compensated (Step.transaction leave)
        (do Step.transaction prepare; Step.transaction scan) (Step.transaction goBack)
      return .passing cells

end CellModem.Operation
