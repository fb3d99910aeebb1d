import ResourceSql.Proofs.BagHistory
import ResourceSql.Proofs.ConditionNegation
import ResourceSql.Proofs.English.CasesOfPlurals
import ResourceSql.Proofs.IdentifierReading
import ResourceSql.Proofs.InsertedRows
import ResourceSql.Proofs.NonFiniteValues
import ResourceSql.Proofs.PackedResources
import ResourceSql.Proofs.PageWindows
import ResourceSql.Proofs.PathMembers
import ResourceSql.Proofs.ReportedChanges
import ResourceSql.Proofs.SetClauses
