import MediaTiers.Main
import MediaTiers.Config.File
import MediaTiers.Proofs.Stylesheet.Pruning
import MediaTiers.Proofs.Tier.Partition
import MediaTiers.Proofs.Tier.Cumulative
import MediaTiers.Proofs.Tier.Insertion
import MediaTiers.Proofs.Tier.Resolution
import MediaTiers.Proofs.Placement
import MediaTiers.Proofs.Registry.Invariant
import MediaTiers.Proofs.Registry.Refusal
import MediaTiers.Proofs.EmptyRules
import MediaTiers.Proofs.Tier.MediaMap
import MediaTiers.Proofs.Text.Folding
import MediaTiers.Proofs.Text.Caseless
import MediaTiers.Proofs.Text.Blank
import MediaTiers.Proofs.Spelling
import MediaTiers.Proofs.Selector
import MediaTiers.Proofs.Yaml.Plain
import MediaTiers.Proofs.Stylesheet.RoundTrip
import MediaTiers.Proofs.Referable
import MediaTiers.Proofs.Grammar
import MediaTiers.Proofs.Decimal.Canonical
import MediaTiers.Proofs.PrintedPoint
import MediaTiers.Proofs.Registry.Sifting
import MediaTiers.Proofs.Config
import MediaTiers.Proofs.Config.RoundTrip
import MediaTiers.Proofs.Stylesheet.JsonText
import MediaTiers.Proofs.Stylesheet.Absent
import MediaTiers.Proofs.Outcome
import MediaTiers.Proofs.Stylesheet.Preorder
import MediaTiers.Proofs.Options
