import SeedCatalog.Main
import SeedCatalog.Proofs.Config.Composition
import SeedCatalog.Proofs.Config.Undecodable
import SeedCatalog.Proofs.Files.Replace
import SeedCatalog.Proofs.Resolution
import SeedCatalog.Proofs.Scan.Completion
import SeedCatalog.Proofs.Scan.Consistency
import SeedCatalog.Proofs.Scan.Copy
import SeedCatalog.Proofs.Scan.Insert
import SeedCatalog.Proofs.Scan.InsertComment
import SeedCatalog.Proofs.Scan.Recording
import SeedCatalog.Proofs.Scan.Recovery
import SeedCatalog.Proofs.Scan.Remark
import SeedCatalog.Proofs.Scan.UnregisteredCopy
import SeedCatalog.Proofs.Scan.ValueBreak
import SeedCatalog.Proofs.Scan.ValueExtent
import SeedCatalog.Proofs.Scan.Progress
import SeedCatalog.Proofs.Sql.Carried
import SeedCatalog.Proofs.Catalog.Grouping
import SeedCatalog.Proofs.Catalog.ReadBack
import SeedCatalog.Proofs.Scan.Shared
import SeedCatalog.Proofs.Scan.UnregisteredInsert
import SeedCatalog.Proofs.Scan.LineEnd
import SeedCatalog.Proofs.CommandLine.Reporting
import SeedCatalog.Proofs.CommandLine.StandardInput
