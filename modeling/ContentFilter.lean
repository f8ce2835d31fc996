import ContentFilter.Collision
import ContentFilter.Cosmetic.Matching
import ContentFilter.FilterList.FilterSet
import ContentFilter.Hostname.PublicSuffix
import ContentFilter.Network.Matching
import ContentFilter.Stored.Filters
import ContentFilter.Proofs.Collision.FirstText
import ContentFilter.Proofs.Cosmetic.Entities
import ContentFilter.Proofs.Cosmetic.Identity
import ContentFilter.Proofs.Cosmetic.Pages
import ContentFilter.Proofs.Cosmetic.Rendering
import ContentFilter.Proofs.Expression.Rows
import ContentFilter.Proofs.FilterList.Comments
import ContentFilter.Proofs.FilterList.KeptLine
import ContentFilter.Proofs.FilterList.Markers
import ContentFilter.Proofs.FilterList.RuleTypes
import ContentFilter.Proofs.FilterList.Slices
import ContentFilter.Proofs.Hash.Polynomial
import ContentFilter.Proofs.Hostname.GeneralDomain
import ContentFilter.Proofs.Hostname.LabelStart
import ContentFilter.Proofs.Idna.Capitals
import ContentFilter.Proofs.Idna.Signs
import ContentFilter.Proofs.Network.ByExpression
import ContentFilter.Proofs.Network.Case
import ContentFilter.Proofs.Network.Duplicates
import ContentFilter.Proofs.Network.Exception
import ContentFilter.Proofs.Network.Grammar
import ContentFilter.Proofs.Network.HostsRule
import ContentFilter.Proofs.Network.Identity
import ContentFilter.Proofs.Network.Meaning
import ContentFilter.Proofs.Network.Offset
import ContentFilter.Proofs.Network.Rearrangement
import ContentFilter.Proofs.Network.Rendering
import ContentFilter.Proofs.Network.StoredHostname
import ContentFilter.Proofs.Network.Tokens
import ContentFilter.Proofs.Network.WellFormed
import ContentFilter.Proofs.Request.Source
import ContentFilter.Proofs.Stored.Restoring
import ContentFilter.Proofs.Token.Cursor
import ContentFilter.Proofs.Unicode.Capitals
import ContentFilter.Proofs.Url.Assembly
