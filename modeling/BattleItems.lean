import BattleItems.Main
import BattleItems.Report.Declarations
import BattleItems.Proofs.CatchRate
import BattleItems.Proofs.ChangeLog
import BattleItems.Proofs.Development
import BattleItems.Proofs.DrawCounts
import BattleItems.Proofs.Gates
import BattleItems.Proofs.Independence
import BattleItems.Proofs.Isolation
import BattleItems.Proofs.Recording
import BattleItems.Proofs.Reports
import BattleItems.Proofs.RestrictedActs
import BattleItems.Proofs.Thresholds
import BattleItems.Proofs.UsageLimits
import BattleItems.Proofs.ValidCatalogs
import BattleItems.Proofs.WellFormedCatalogs
import BattleItems.Proofs.Verdicts
import BattleItems.Proofs.Visibility
import BattleItems.Proofs.Commutation
import BattleItems.Proofs.Heals
import BattleItems.Proofs.HpPercentages
import BattleItems.Proofs.Idempotence
import BattleItems.Proofs.IssuePlaces
import BattleItems.Proofs.Messages
import BattleItems.Proofs.StatBoosts
import BattleItems.Proofs.Templates
import BattleItems.Proofs.HealConditions
import BattleItems.Proofs.Probabilities
import BattleItems.Proofs.PcgPeriod
import BattleItems.Proofs.PcgOutput
import BattleItems.Proofs.DerivedSeeds
import BattleItems.Proofs.Lifecycles
import BattleItems.Proofs.ItemTriggers
import BattleItems.Proofs.SimulationTurns
import BattleItems.Proofs.Cooldowns
import BattleItems.Proofs.Ranges
