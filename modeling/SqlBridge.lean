import SqlBridge.Expr.Describe
import SqlBridge.Main
import SqlBridge.Operation.Chain
import SqlBridge.Proofs.Descriptor.Splice
import SqlBridge.Proofs.Literal.ArrayText
import SqlBridge.Proofs.Literal.SpanText
import SqlBridge.Registry.Catalog
import SqlBridge.Proofs.Expr.NullFlags
import SqlBridge.Proofs.Operation.NullFlags
import SqlBridge.Proofs.Registry.Session
import SqlBridge.Proofs.Registry.HostType
import SqlBridge.Proofs.Descriptor.Coherent
import SqlBridge.Proofs.Registry.Coherent
import SqlBridge.Proofs.Operation.References
import SqlBridge.Proofs.Operation.Refusals
import SqlBridge.Proofs.Registry.DateTimes
import SqlBridge.Proofs.Registry.WellTyped
import SqlBridge.Proofs.Registry.Arrays
import SqlBridge.Proofs.StoreType.Modifiers
import SqlBridge.Proofs.Registry.Stores
import SqlBridge.Proofs.Registry.Modifiers
import SqlBridge.Proofs.Descriptor.Nested
import SqlBridge.Proofs.Descriptor.Reread
import SqlBridge.Proofs.Registry.Reread
import SqlBridge.Proofs.Registry.Listing
import SqlBridge.Proofs.Registry.Uniqueness
import SqlBridge.Proofs.Registry.OwnName
import SqlBridge.Proofs.Registry.Acceptance
import SqlBridge.Proofs.Registry.Lasting
import SqlBridge.Proofs.Registry.Extension
import SqlBridge.Proofs.Registry.Refusals
import SqlBridge.Proofs.Registry.Consistent
import SqlBridge.Proofs.HostType.Grammar
import SqlBridge.Proofs.HostType.Spelling
import SqlBridge.Proofs.StoreType.Grammar
import SqlBridge.Proofs.StoreType.Precision
import SqlBridge.Proofs.Expr.Readable
import SqlBridge.Proofs.Operation.Borrowed
import SqlBridge.Proofs.Expr.Token
import SqlBridge.Proofs.Text.LetterCase
import SqlBridge.Proofs.StoreType.LetterCase
import SqlBridge.Proofs.Registry.Known
import SqlBridge.Proofs.Registry.Inferred
import SqlBridge.Proofs.Registry.Switches
import SqlBridge.Proofs.Registry.LetterCase
import SqlBridge.Proofs.Descriptor.Instants
import SqlBridge.Proofs.Literal.DictionaryText
import SqlBridge.Proofs.Descriptor.Labels
import SqlBridge.Proofs.Descriptor.Integers
import SqlBridge.Proofs.Operation.Lookups
import SqlBridge.Proofs.Calendar.Interval
import SqlBridge.Proofs.Calendar.Offset
import SqlBridge.Proofs.Registry.Containers
import SqlBridge.Proofs.Operation.RegexOptions
import SqlBridge.Proofs.Registry.RangeTypes
import SqlBridge.Proofs.Operation.RangeFamilies
import SqlBridge.Proofs.Expr.Neighbours
import SqlBridge.Proofs.Operation.Compositions
import SqlBridge.Proofs.Registry.Properties
import SqlBridge.Proofs.Registry.SameTables
import SqlBridge.Proofs.Registry.Sizes
import SqlBridge.Proofs.Registry.Commuting
import SqlBridge.Proofs.Registry.Declared
import SqlBridge.Proofs.Options.Form
import SqlBridge.Proofs.Descriptor.Switches
import SqlBridge.Proofs.Descriptor.Facets
import SqlBridge.Proofs.HostValue.RangeText
