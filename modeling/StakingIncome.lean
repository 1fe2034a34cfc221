import StakingIncome.Export
import StakingIncome.Main
import StakingIncome.Proofs.DayFigures
import StakingIncome.Proofs.PriceLookup
import StakingIncome.Proofs.Drafts
import StakingIncome.Proofs.Pricing
import StakingIncome.Proofs.NeededPrices
import StakingIncome.Proofs.SeparateReport
import StakingIncome.Proofs.GroupedReport
import StakingIncome.Proofs.Objections
import StakingIncome.Proofs.OperatorAccuracy
import StakingIncome.Proofs.ShareConservation
import StakingIncome.Proofs.RewardSplitting
import StakingIncome.Proofs.ScheduleLookup
import StakingIncome.Proofs.DelimitedText
import StakingIncome.Proofs.LookAlike
import StakingIncome.Proofs.Reordering
import StakingIncome.Proofs.SameTotals
import StakingIncome.Proofs.PlainReport
import StakingIncome.Proofs.ShownColumns
import StakingIncome.Proofs.Comparison
import StakingIncome.Proofs.UnreportedSeries
import StakingIncome.Proofs.SpanReport
import StakingIncome.Proofs.UnitConversion
import StakingIncome.Proofs.Denominations
import StakingIncome.Proofs.Narrowing
import StakingIncome.Proofs.AllOrNothing
import StakingIncome.Proofs.DateNotation
import StakingIncome.Proofs.NumberTexts
import StakingIncome.Proofs.StringTexts
import StakingIncome.Proofs.ValueTexts
import StakingIncome.Proofs.RecordDecoding
import StakingIncome.Proofs.IncomeTexts
import StakingIncome.Proofs.AmountTexts
import StakingIncome.Proofs.IncomeWriting
import StakingIncome.Proofs.Variables
import StakingIncome.Proofs.Requirements
import StakingIncome.Proofs.SettingsNotation
import StakingIncome.Proofs.AlikeEnvironments
