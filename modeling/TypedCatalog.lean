import TypedCatalog.Main
import TypedCatalog.Proofs.Catalog.CacheBound
import TypedCatalog.Proofs.Catalog.CacheOrder
import TypedCatalog.Proofs.Catalog.Collect
import TypedCatalog.Proofs.Catalog.Missing
import TypedCatalog.Proofs.Catalog.Nulls
import TypedCatalog.Proofs.Catalog.Spellings
import TypedCatalog.Proofs.CommandLine.Program
import TypedCatalog.Proofs.CommandLine.Schemas
import TypedCatalog.Proofs.Conversion.Forms
import TypedCatalog.Proofs.Conversion.Outcome
import TypedCatalog.Proofs.Conversion.Shape
import TypedCatalog.Proofs.Declaration.Header
import TypedCatalog.Proofs.Declaration.Identifiers
import TypedCatalog.Proofs.Declaration.Members
import TypedCatalog.Proofs.Declaration.Names
import TypedCatalog.Proofs.Declaration.Outline
import TypedCatalog.Proofs.Declaration.Routines
import TypedCatalog.Proofs.Name.Keys
import TypedCatalog.Proofs.Name.Pascal
import TypedCatalog.Proofs.Service.Filters
import TypedCatalog.Proofs.Service.Listings
import TypedCatalog.Proofs.Service.Results
import TypedCatalog.Proofs.Service.Snapshots
import TypedCatalog.Proofs.SqlType.Lookups
import TypedCatalog.Untyped
