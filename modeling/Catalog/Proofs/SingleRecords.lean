import Catalog.Proofs.AddedFilters
import Catalog.Proofs.Identifiers
import Catalog.Proofs.Projection
import Catalog.Proofs.ReadKeys

set_option autoImplicit false

namespace Catalog

namespace Plan

end Plan

namespace Store

variable {s : Store} {params : Params} {relations : Flags}

end Store

namespace Service

variable {s : Store} {pairs : Pairs} {segment text : String} {id : Int}

section Singles

variable {relations : Flags} {error : QueryError}

end Singles

end Service

end Catalog
