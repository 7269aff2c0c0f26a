import TokenClient.Bytes

/-! The creation code of the one token this client deploys: "Token" or "TOK", with 18 decimals and
100 whole tokens minted to the account that deploys it. -/
namespace TokenClient.Token

def codeWords : List Nat :=
  [0x60806040523480156200001157600080fd5b5060405180604001604052806005,
   0x81526020017f546f6b656e000000000000000000000000000000000000000000,
   0x0000000000008152506040518060400160405280600381526020017f544f4b00,
   0x0000000000000000000000000000000000000000000000000000000081525081,
   0x600390805190602001906200009692919062000281565b508060049080519060,
   0x200190620000af92919062000281565b505050620000ef33620000c7620000f5,
   0x60201b60201c565b600a620000d5919062000471565b6064620000e391906200,
   0x05ae565b620000fe60201b60201c565b620006f0565b60006012905090565b60,
   0x0073ffffffffffffffffffffffffffffffffffffffff168273ffffffffffffff,
   0xffffffffffffffffffffffffff16141562000171576040517f08c379a0000000,
   0x0000000000000000000000000000000000000000000000000081526004016200,
   0x01689062000369565b60405180910390fd5b6200018560008383620002776020,
   0x1b60201c565b8060026000828254620001999190620003b9565b925050819055,
   0x50806000808473ffffffffffffffffffffffffffffffffffffffff1673ffffff,
   0xffffffffffffffffffffffffffffffffff168152602001908152602001600020,
   0x6000828254620001f09190620003b9565b925050819055508173ffffffffffff,
   0xffffffffffffffffffffffffffff16600073ffffffffffffffffffffffffffff,
   0xffffffffffff167fddf252ad1be2c89b69c2b068fc378daa952ba7f163c4a116,
   0x28f55a4df523b3ef836040516200025791906200038b565b60405180910390a3,
   0x62000273600083836200027c60201b60201c565b5050565b505050565b505050,
   0x565b8280546200028f9062000626565b90600052602060002090601f01602090,
   0x0481019282620002b35760008555620002ff565b82601f10620002ce57805160,
   0xff1916838001178555620002ff565b82800160010185558215620002ff579182,
   0x015b82811115620002fe578251825591602001919060010190620002e1565b5b,
   0x5090506200030e919062000312565b5090565b5b808211156200032d57600081,
   0x600090555060010162000313565b5090565b600062000340601f83620003a856,
   0x5b91506200034d82620006c7565b602082019050919050565b62000363816200,
   0x060f565b82525050565b60006020820190508181036000830152620003848162,
   0x000331565b9050919050565b6000602082019050620003a26000830184620003,
   0x58565b92915050565b600082825260208201905092915050565b6000620003c6,
   0x826200060f565b9150620003d3836200060f565b9250827fffffffffffffffff,
   0xffffffffffffffffffffffffffffffffffffffffffffffff038211156200040b,
   0x576200040a6200065c565b5b828201905092915050565b600080829150839050,
   0x5b6001851115620004685780860481111562000440576200043f6200065c565b,
   0x5b6001851615620004505780820291505b80810290506200046085620006ba56,
   0x5b945062000420565b94509492505050565b60006200047e826200060f565b91,
   0x506200048b8362000619565b9250620004ba7fffffffffffffffffffffffffff,
   0xffffffffffffffffffffffffffffffffffffff8484620004c2565b9050929150,
   0x50565b600082620004d45760019050620005a7565b81620004e4576000905062,
   0x0005a7565b8160018114620004fd576002811462000508576200053e565b6001,
   0x915050620005a7565b60ff8411156200051d576200051c6200065c565b5b8360,
   0x020a9150848211156200053757620005366200065c565b5b50620005a7565b50,
   0x60208310610133831016604e8410600b8410161715620005785782820a905083,
   0x8111156200057257620005716200065c565b5b620005a7565b62000587848484,
   0x600162000416565b92509050818404811115620005a157620005a06200065c56,
   0x5b5b81810290505b9392505050565b6000620005bb826200060f565b91506200,
   0x05c8836200060f565b9250817fffffffffffffffffffffffffffffffffffffff,
   0xffffffffffffffffffffffffff04831182151516156200060457620006036200,
   0x065c565b5b828202905092915050565b6000819050919050565b600060ff8216,
   0x9050919050565b600060028204905060018216806200063f57607f821691505b,
   0x602082108114156200065657620006556200068b565b5b50919050565b7f4e48,
   0x7b71000000000000000000000000000000000000000000000000000000006000,
   0x52601160045260246000fd5b7f4e487b71000000000000000000000000000000,
   0x00000000000000000000000000600052602260045260246000fd5b6000816001,
   0x1c9050919050565b7f45524332303a206d696e7420746f20746865207a65726f,
   0x206164647265737300600082015250565b61126880620007006000396000f3fe,
   0x608060405234801561001057600080fd5b50600436106100a95760003560e01c,
   0x80633950935111610071578063395093511461016857806370a0823114610198,
   0x57806395d89b41146101c8578063a457c2d7146101e6578063a9059cbb146102,
   0x16578063dd62ed3e14610246576100a9565b806306fdde03146100ae57806309,
   0x5ea7b3146100cc57806318160ddd146100fc57806323b872dd1461011a578063,
   0x313ce5671461014a575b600080fd5b6100b6610276565b6040516100c3919061,
   0x0d29565b60405180910390f35b6100e660048036038101906100e19190610b73,
   0x565b610308565b6040516100f39190610d0e565b60405180910390f35b610104,
   0x61032b565b6040516101119190610e2b565b60405180910390f35b6101346004,
   0x80360381019061012f9190610b20565b610335565b6040516101419190610d0e,
   0x565b60405180910390f35b610152610364565b60405161015f9190610e46565b,
   0x60405180910390f35b610182600480360381019061017d9190610b73565b6103,
   0x6d565b60405161018f9190610d0e565b60405180910390f35b6101b260048036,
   0x038101906101ad9190610ab3565b6103a4565b6040516101bf9190610e2b565b,
   0x60405180910390f35b6101d06103ec565b6040516101dd9190610d29565b6040,
   0x5180910390f35b61020060048036038101906101fb9190610b73565b61047e56,
   0x5b60405161020d9190610d0e565b60405180910390f35b610230600480360381,
   0x019061022b9190610b73565b6104f5565b60405161023d9190610d0e565b6040,
   0x5180910390f35b610260600480360381019061025b9190610ae0565b61051856,
   0x5b60405161026d9190610e2b565b60405180910390f35b606060038054610285,
   0x90610f5b565b80601f0160208091040260200160405190810160405280929190,
   0x8181526020018280546102b190610f5b565b80156102fe5780601f106102d357,
   0x6101008083540402835291602001916102fe565b820191906000526020600020,
   0x905b8154815290600101906020018083116102e157829003601f168201915b50,
   0x50505050905090565b60008061031361059f565b90506103208185856105a756,
   0x5b600191505092915050565b6000600254905090565b60008061034061059f56,
   0x5b905061034d858285610772565b6103588585856107fe565b60019150509392,
   0x505050565b60006012905090565b60008061037861059f565b90506103998185,
   0x8561038a8589610518565b6103949190610e7d565b6105a7565b600191505092,
   0x915050565b60008060008373ffffffffffffffffffffffffffffffffffffffff,
   0x1673ffffffffffffffffffffffffffffffffffffffff16815260200190815260,
   0x2001600020549050919050565b6060600480546103fb90610f5b565b80601f01,
   0x6020809104026020016040519081016040528092919081815260200182805461,
   0x042790610f5b565b80156104745780601f106104495761010080835404028352,
   0x9160200191610474565b820191906000526020600020905b8154815290600101,
   0x9060200180831161045757829003601f168201915b5050505050905090565b60,
   0x008061048961059f565b905060006104978286610518565b9050838110156104,
   0xdc576040517f08c379a000000000000000000000000000000000000000000000,
   0x00000000000081526004016104d390610e0b565b60405180910390fd5b6104e9,
   0x82868684036105a7565b60019250505092915050565b60008061050061059f56,
   0x5b905061050d8185856107fe565b600191505092915050565b60006001600084,
   0x73ffffffffffffffffffffffffffffffffffffffff1673ffffffffffffffffff,
   0xffffffffffffffffffffff16815260200190815260200160002060008373ffff,
   0xffffffffffffffffffffffffffffffffffff1673ffffffffffffffffffffffff,
   0xffffffffffffffff16815260200190815260200160002054905092915050565b,
   0x600033905090565b600073ffffffffffffffffffffffffffffffffffffffff16,
   0x8373ffffffffffffffffffffffffffffffffffffffff16141561061757604051,
   0x7f08c379a0000000000000000000000000000000000000000000000000000000,
   0x00815260040161060e90610deb565b60405180910390fd5b600073ffffffffff,
   0xffffffffffffffffffffffffffffff168273ffffffffffffffffffffffffffff,
   0xffffffffffff161415610687576040517f08c379a00000000000000000000000,
   0x0000000000000000000000000000000000815260040161067e90610d6b565b60,
   0x405180910390fd5b80600160008573ffffffffffffffffffffffffffffffffff,
   0xffffff1673ffffffffffffffffffffffffffffffffffffffff16815260200190,
   0x815260200160002060008473ffffffffffffffffffffffffffffffffffffffff,
   0x1673ffffffffffffffffffffffffffffffffffffffff16815260200190815260,
   0x2001600020819055508173ffffffffffffffffffffffffffffffffffffffff16,
   0x8373ffffffffffffffffffffffffffffffffffffffff167f8c5be1e5ebec7d5b,
   0xd14f71427d1e84f3dd0314c0f7b2291e5b200ac8c7c3b9258360405161076591,
   0x90610e2b565b60405180910390a3505050565b600061077e8484610518565b90,
   0x507fffffffffffffffffffffffffffffffffffffffffffffffffffffffffffff,
   0xffff81146107f857818110156107ea576040517f08c379a00000000000000000,
   0x000000000000000000000000000000000000000081526004016107e190610d8b,
   0x565b60405180910390fd5b6107f784848484036105a7565b5b50505050565b60,
   0x0073ffffffffffffffffffffffffffffffffffffffff168373ffffffffffffff,
   0xffffffffffffffffffffffffff16141561086e576040517f08c379a000000000,
   0x0000000000000000000000000000000000000000000000008152600401610865,
   0x90610dcb565b60405180910390fd5b600073ffffffffffffffffffffffffffff,
   0xffffffffffff168273ffffffffffffffffffffffffffffffffffffffff161415,
   0x6108de576040517f08c379a00000000000000000000000000000000000000000,
   0x000000000000000081526004016108d590610d4b565b60405180910390fd5b61,
   0x08e9838383610a7f565b60008060008573ffffffffffffffffffffffffffffff,
   0xffffffffff1673ffffffffffffffffffffffffffffffffffffffff1681526020,
   0x019081526020016000205490508181101561096f576040517f08c379a0000000,
   0x0000000000000000000000000000000000000000000000000081526004016109,
   0x6690610dab565b60405180910390fd5b8181036000808673ffffffffffffffff,
   0xffffffffffffffffffffffff1673ffffffffffffffffffffffffffffffffffff,
   0xffff16815260200190815260200160002081905550816000808573ffffffffff,
   0xffffffffffffffffffffffffffffff1673ffffffffffffffffffffffffffffff,
   0xffffffffff1681526020019081526020016000206000828254610a029190610e,
   0x7d565b925050819055508273ffffffffffffffffffffffffffffffffffffffff,
   0x168473ffffffffffffffffffffffffffffffffffffffff167fddf252ad1be2c8,
   0x9b69c2b068fc378daa952ba7f163c4a11628f55a4df523b3ef84604051610a66,
   0x9190610e2b565b60405180910390a3610a79848484610a84565b50505050565b,
   0x505050565b505050565b600081359050610a9881611204565b92915050565b60,
   0x0081359050610aad8161121b565b92915050565b600060208284031215610ac9,
   0x57610ac8610feb565b5b6000610ad784828501610a89565b9150509291505056,
   0x5b60008060408385031215610af757610af6610feb565b5b6000610b05858286,
   0x01610a89565b9250506020610b1685828601610a89565b915050925092905056,
   0x5b600080600060608486031215610b3957610b38610feb565b5b6000610b4786,
   0x828701610a89565b9350506020610b5886828701610a89565b9250506040610b,
   0x6986828701610a9e565b9150509250925092565b60008060408385031215610b,
   0x8a57610b89610feb565b5b6000610b9885828601610a89565b9250506020610b,
   0xa985828601610a9e565b9150509250929050565b610bbc81610ee5565b825250,
   0x50565b6000610bcd82610e61565b610bd78185610e6c565b9350610be7818560,
   0x208601610f28565b610bf081610ff0565b840191505092915050565b6000610c,
   0x08602383610e6c565b9150610c1382611001565b604082019050919050565b60,
   0x00610c2b602283610e6c565b9150610c3682611050565b604082019050919050,
   0x565b6000610c4e601d83610e6c565b9150610c598261109f565b602082019050,
   0x919050565b6000610c71602683610e6c565b9150610c7c826110c8565b604082,
   0x019050919050565b6000610c94602583610e6c565b9150610c9f82611117565b,
   0x604082019050919050565b6000610cb7602483610e6c565b9150610cc2826111,
   0x66565b604082019050919050565b6000610cda602583610e6c565b9150610ce5,
   0x826111b5565b604082019050919050565b610cf981610f11565b82525050565b,
   0x610d0881610f1b565b82525050565b6000602082019050610d23600083018461,
   0x0bb3565b92915050565b60006020820190508181036000830152610d43818461,
   0x0bc2565b905092915050565b60006020820190508181036000830152610d6481,
   0x610bfb565b9050919050565b60006020820190508181036000830152610d8481,
   0x610c1e565b9050919050565b60006020820190508181036000830152610da481,
   0x610c41565b9050919050565b60006020820190508181036000830152610dc481,
   0x610c64565b9050919050565b60006020820190508181036000830152610de481,
   0x610c87565b9050919050565b60006020820190508181036000830152610e0481,
   0x610caa565b9050919050565b60006020820190508181036000830152610e2481,
   0x610ccd565b9050919050565b6000602082019050610e406000830184610cf056,
   0x5b92915050565b6000602082019050610e5b6000830184610cff565b92915050,
   0x565b600081519050919050565b600082825260208201905092915050565b6000,
   0x610e8882610f11565b9150610e9383610f11565b9250827fffffffffffffffff,
   0xffffffffffffffffffffffffffffffffffffffffffffffff03821115610ec857,
   0x610ec7610f8d565b5b828201905092915050565b6000610ede82610ef1565b90,
   0x50919050565b60008115159050919050565b600073ffffffffffffffffffffff,
   0xffffffffffffffffff82169050919050565b6000819050919050565b600060ff,
   0x82169050919050565b60005b83811015610f4657808201518184015260208101,
   0x9050610f2b565b83811115610f55576000848401525b50505050565b60006002,
   0x820490506001821680610f7357607f821691505b60208210811415610f875761,
   0x0f86610fbc565b5b50919050565b7f4e487b7100000000000000000000000000,
   0x000000000000000000000000000000600052601160045260246000fd5b7f4e48,
   0x7b71000000000000000000000000000000000000000000000000000000006000,
   0x52602260045260246000fd5b600080fd5b6000601f19601f8301169050919050,
   0x565b7f45524332303a207472616e7366657220746f20746865207a65726f2061,
   0x64647260008201527f6573730000000000000000000000000000000000000000,
   0x000000000000000000602082015250565b7f45524332303a20617070726f7665,
   0x20746f20746865207a65726f20616464726560008201527f7373000000000000,
   0x000000000000000000000000000000000000000000000000602082015250565b,
   0x7f45524332303a20696e73756666696369656e7420616c6c6f77616e63650000,
   0x00600082015250565b7f45524332303a207472616e7366657220616d6f756e74,
   0x2065786365656473206260008201527f616c616e636500000000000000000000,
   0x00000000000000000000000000000000602082015250565b7f45524332303a20,
   0x7472616e736665722066726f6d20746865207a65726f20616460008201527f64,
   0x7265737300000000000000000000000000000000000000000000000000000060,
   0x2082015250565b7f45524332303a20617070726f76652066726f6d2074686520,
   0x7a65726f2061646460008201527f726573730000000000000000000000000000,
   0x0000000000000000000000000000602082015250565b7f45524332303a206465,
   0x6372656173656420616c6c6f77616e63652062656c6f7760008201527f207a65,
   0x726f000000000000000000000000000000000000000000000000000000602082,
   0x015250565b61120d81610ed3565b811461121857600080fd5b50565b61122481,
   0x610f11565b811461122f57600080fd5b5056fea2646970667358221220fae032,
   0xa04fee5bb118da74f0aef836759c674fbca3eacbd1e45878299fc845bb64736f]

def code : Bytes :=
  codeWords.flatMap (Bytes.ofNat 32) ++
    Bytes.ofNat 8 0x6c63430008060033

end TokenClient.Token
